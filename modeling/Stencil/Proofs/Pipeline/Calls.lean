import Stencil.Pipeline
import Stencil.Proofs.Scan.Placeholder
import Stencil.Proofs.Session.Runs

/-! What a pipeline hands to its formatter. The formatter of the markup is given placeholders only,
so it never sees a region; this holds of every run, whatever the formatter does and whether or not
it fails. -/
namespace Stencil

namespace Session
variable {α β : Type} {P : FormatterCall → Prop}

/-- Whatever becomes of the work, the calls that it records are of this kind. -/
def CallsOnly (P : FormatterCall → Prop) (work : Session α) : Prop :=
  ∀ w, ∃ calls, (work.run.run w).2.callsRev = calls ++ w.callsRev ∧ ∀ c ∈ calls, P c

/-- The work records no calls. -/
def Silent (work : Session α) : Prop := ∀ w, (work.run.run w).2.callsRev = w.callsRev

lemma Silent.callsOnly {work : Session α} (h : Silent work) : CallsOnly P work :=
  fun w => ⟨[],h w,by simp⟩

lemma Silent.bind {work : Session α} {next : α → Session β} (h : Silent work)
    (hnext : ∀ a, Silent (next a)) : Silent (work >>= next) := by
  intro w
  have hw := h w
  rw [run_bind]
  generalize work.run.run w = out at hw
  obtain ⟨r,w'⟩ := out
  cases r with
  | error e => exact hw
  | ok a => exact (hnext a w').trans hw

lemma CallsOnly.bind {work : Session α} {next : α → Session β} (h : CallsOnly P work)
    (hnext : ∀ a, CallsOnly P (next a)) : CallsOnly P (work >>= next) := by
  intro w
  obtain ⟨calls,hcalls,hP⟩ := h w
  rw [run_bind]
  generalize work.run.run w = out at hcalls
  obtain ⟨r,w'⟩ := out
  cases r with
  | error e => exact ⟨calls,hcalls,hP⟩
  | ok a =>
    obtain ⟨more,hmore,hmoreP⟩ := hnext a w'
    refine ⟨more ++ calls,by rw [hmore, hcalls, List.append_assoc],fun c hc => ?_⟩
    exact (List.mem_append.mp hc).elim (hmoreP c) (hP c)

lemma silent_pure (a : α) : Silent (pure a) := fun _ => rfl

lemma silent_throw (e : Failure) : Silent (throw e : Session α) := fun _ => rfl

lemma silent_emitAll (es : List Log.Event) : Silent (liftM (emitAll es) : Session Unit) := fun _ => rfl

lemma Silent.context {work : Session α} (h : Silent work) (doing : Bytes) :
    Silent (context doing work) := by
  intro w
  rw [← h w]
  rfl

lemma silent_emit (e : Log.Event) : Silent (liftM (emit e) : Session Unit) := fun _ => rfl

lemma silent_ofExcept (r : Except Failure α) : Silent (MonadExcept.ofExcept r : Session α) := by
  cases r with
  | error e => exact silent_throw e
  | ok a => exact silent_pure a

lemma silent_restoring (document : Bytes) (map : Token.Map) :
    Silent (liftM (restoring document map) : Session Restored) := fun _ => rfl

/-- Work after tokenizing is only ever done on what tokenizing gives. -/
lemma tokenizing_bind (width : Bytes → Nat) (o : Token.Options) (document : Bytes)
    (next : Tokenized → Session β) :
    tokenizing width o document >>= next =
      match tokenizeWith width o document with
      | .ok (t, used) => (do emitAll (Log.tokenized o document t used); next t)
      | .error e => (do emitAll (Log.notTokenized o e); throw (.ofTokenizeError e)) := by
  rw [tokenizing]
  cases tokenizeWith width o document with
  | ok r => exact bind_assoc ..
  | error e => exact bind_assoc ..

lemma CallsOnly.formatting {format : Formatter} {language : Language} {layout : Layout}
    {text : Bytes} (hP : P ⟨language, layout, text⟩) (h : Silent (format language layout text)) :
    CallsOnly P (formatting format language layout text) := by
  have hrecord : CallsOnly P (liftM (recordCall ⟨language, layout, text⟩) : Session Unit) :=
    fun w => ⟨[⟨language, layout, text⟩],rfl,by simpa using hP⟩
  exact hrecord.bind fun _ => (h.context _).callsOnly

end Session

/-- The text holds no region. -/
def FreeOfRegions (text : Bytes) : Prop := ∀ i, Region.openerLength (text.drop i) = 0

/-- Formatters that differ only on markup with regions in it. -/
structure Formatter.AgreeOnMarkup (f g : Formatter) : Prop where
  html : ∀ layout text, FreeOfRegions text → f .html layout text = g .html layout text
  php : f .php = g .php

namespace Pipeline
open Session
variable (p : Pipeline) (html php : Layout) (source : Bytes)

/-- The pass over the restored document, if there is one. -/
def secondPass (f : Formatter) (tokenized : Tokenized) (restored : Restored) : Session Bytes :=
  if p.skipPhpPass || tokenized.map.size == 0 then pure restored.text
  else formatting f .php php restored.text

/-- What is done once the document is formatted. -/
def conclude (source : Bytes) (tokenized : Tokenized) (restored : Restored) (formatted : Bytes) :
    Session FormattedDocument := do
  let diagnostics ← MonadExcept.ofExcept (diagnoseRestored source tokenized restored)
  emit (Log.event .debug "formatted document" [
    ("regions", .int tokenized.map.size),
    ("lost", .int restored.misses.length)])
  return ⟨formatted, tokenized, restored, diagnostics⟩

lemma formatWith_of_formatter {f : Formatter} (h : p.formatter = some f) :
    p.formatWith html php source = (do
      let tokenized ← tokenizing p.width p.tokens source
      let markup ← formatting f .html html tokenized.placeholder
      let restored ← restoring markup tokenized.map
      let formatted ← p.secondPass php f tokenized restored
      conclude source tokenized restored formatted) := by
  rw [formatWith, h]
  refine bind_congr fun tokenized => bind_congr fun markup => bind_congr fun restored => ?_
  dsimp only [secondPass]
  split <;> rfl

lemma silent_conclude (tokenized : Tokenized) (restored : Restored) (formatted : Bytes) :
    Silent (conclude source tokenized restored formatted) :=
  (silent_ofExcept _).bind fun _ => (silent_emit _).bind fun _ => silent_pure _

/-- What a formatter would do with regions in markup makes no difference. -/
theorem formatWith_congr {f g : Formatter} (h : f.AgreeOnMarkup g) :
    { p with formatter := some f }.formatWith html php source =
      { p with formatter := some g }.formatWith html php source := by
  rw [formatWith_of_formatter _ _ _ _ rfl, formatWith_of_formatter _ _ _ _ rfl, tokenizing_bind,
    tokenizing_bind]
  cases htokenize : tokenizeWith p.width p.tokens source with
  | error e => rfl
  | ok r =>
    obtain ⟨t,used⟩ := r
    have hhtml : formatting f .html html t.placeholder = formatting g .html html t.placeholder := by
      rw [formatting, formatting, h.html _ _ (openerLength_placeholder htokenize)]
    have hphp (text : Bytes) : formatting f .php php text = formatting g .php php text := by
      rw [formatting, formatting, h.php]
    simp only [hhtml, secondPass, hphp]

/-- A formatter of markup is called on texts without regions only. -/
theorem callsOnly_formatWith
    (h : ∀ f ∈ p.formatter, ∀ language layout text, Silent (f language layout text)) :
    CallsOnly (fun c => c.language = .html → FreeOfRegions c.text) (p.formatWith html php source) := by
  cases hf : p.formatter with
  | none =>
    rw [formatWith, hf]
    exact (silent_throw _).callsOnly
  | some f =>
    rw [formatWith_of_formatter _ _ _ _ hf, tokenizing_bind]
    cases htokenize : tokenizeWith p.width p.tokens source with
    | error e => exact (silent_emitAll _).callsOnly.bind fun _ => (silent_throw _).callsOnly
    | ok r =>
      obtain ⟨t,used⟩ := r
      have hfree := openerLength_placeholder htokenize
      refine (silent_emitAll _).callsOnly.bind fun _ => ?_
      refine (CallsOnly.formatting (fun _ => hfree) (h f hf _ _ _)).bind fun markup => ?_
      refine (silent_restoring _ _).callsOnly.bind fun restored => ?_
      refine CallsOnly.bind ?_ fun formatted => (silent_conclude source _ _ _).callsOnly
      rw [secondPass]
      split
      · exact (silent_pure _).callsOnly
      · exact CallsOnly.formatting (fun hc => by simp at hc) (h f hf _ _ _)

end Pipeline

/-- A placeholder holds no region. So under any options it is its own placeholder, and the
formatter of the markup never sees a region: how it would treat one makes no difference to any run,
and none of the calls that are made for markup has one in its text. -/
theorem placeholder_freeOfRegions {width : Bytes → Nat} {o used : Token.Options} {document : Bytes}
    {t : Tokenized} (h : tokenizeWith width o document = .ok (t, used)) :
    (∀ i, Region.openerLength (t.placeholder.drop i) = 0) ∧
    (∀ width' o', o'.validate = .ok () →
      tokenizeWith width' o' t.placeholder = .ok (⟨t.placeholder, .empty, []⟩, o')) ∧
    ∀ (p : Pipeline) html php source,
      (∀ f g : Formatter, f.AgreeOnMarkup g →
        { p with formatter := some f }.formatWith html php source =
          { p with formatter := some g }.formatWith html php source) ∧
      ((∀ f ∈ p.formatter, ∀ language layout text, Session.Silent (f language layout text)) →
        Session.CallsOnly (fun c => c.language = .html → FreeOfRegions c.text)
          (p.formatWith html php source)) := by
  have hfree := openerLength_placeholder h
  refine ⟨hfree,fun width' o' ho' => tokenizeWith_of_openerLength width' ho' hfree,?_⟩
  intro p html php source
  exact ⟨fun f g hfg => p.formatWith_congr html php source hfg,p.callsOnly_formatWith html php source⟩

/-- Beginnings and ends of openers stand next to both regions. -/
def sampleJunctions : Bytes := "<?p<?= 1 ?>hp><<?= 2 ?>?="

def sampleJunctionsTokenized : Tokenized where
  placeholder := "<?p_php_0__hp><_php_1__?="
  map := ⟨[("_php_0__", "<?= 1 ?>"), ("_php_1__", "<?= 2 ?>")]⟩
  tokens := [
    ⟨0, .attribute, "_php_0__", ⟨⟨3, "<?= 1 ?>"⟩, .inAttribute, true⟩⟩,
    ⟨1, .attribute, "_php_1__", ⟨⟨15, "<?= 2 ?>"⟩, .inAttribute, true⟩⟩]

theorem sampleJunctions_freeOfRegions :
    tokenizeWith List.length .default sampleJunctions =
      .ok (sampleJunctionsTokenized, Token.Options.default) ∧
    (∀ i, Region.openerLength (sampleJunctionsTokenized.placeholder.drop i) = 0) ∧
    tokenizeWith List.length .default sampleJunctionsTokenized.placeholder =
      .ok (⟨sampleJunctionsTokenized.placeholder, .empty, []⟩, Token.Options.default) ∧
    Session.CallsOnly (fun c => c.language = .html → FreeOfRegions c.text)
      ({ formatter := some .identity : Pipeline }.format sampleJunctions) := by
  have h : tokenizeWith List.length .default sampleJunctions =
      .ok (sampleJunctionsTokenized, Token.Options.default) := by decide +kernel
  obtain ⟨hfree,hagain,hpipeline⟩ := placeholder_freeOfRegions h
  refine ⟨h,hfree,hagain List.length .default (by decide),(hpipeline _ _ _ _).2 ?_⟩
  rintro f hf language layout text w
  obtain rfl := Option.some.inj hf
  rfl

end Stencil
