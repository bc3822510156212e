import Stencil.Config
import Stencil.Text.Fold

/-! The names of the settings, and building a configuration from named values of any format. -/
namespace Stencil.Config

/-- The settings of a file. -/
inductive Setting where
  | command
  | arguments
  | timeout
  | jobs
  | skipPhpPass
  | included
  | excluded
  | tokens
  | html
  | php
  deriving DecidableEq, Repr

/-- The settings in a block on tokens. -/
inductive TokenSetting where
  | stem
  | maxWidth
  deriving DecidableEq, Repr

/-- The settings in a block on a language. -/
inductive LayoutSetting where
  | printWidth
  | tabWidth
  | useTabs
  deriving DecidableEq, Repr

def settingNames : List (Bytes × Setting) :=
  [("prettier", .command), ("prettier_args", .arguments), ("timeout", .timeout), ("jobs", .jobs),
    ("skip_php_pass", .skipPhpPass), ("include", .included), ("exclude", .excluded),
    ("placeholder", .tokens), ("html", .html), ("php", .php)]

def tokenSettingNames : List (Bytes × TokenSetting) :=
  [("prefix", .stem), ("max_width", .maxWidth)]

def layoutSettingNames : List (Bytes × LayoutSetting) :=
  [("print_width", .printWidth), ("tab_width", .tabWidth), ("use_tabs", .useTabs)]

/-- How the values of a format become settings. Each reader is given the present setting, which
some formats keep on a null, and fails on a value of the wrong kind. -/
structure ValueReader (m : Type → Type) (ν : Type) where
  text : ν → Bytes → m Bytes
  int : ν → Int → m Int
  bool : ν → Bool → m Bool
  /-- A truth value that may be left open. -/
  choice : ν → Option Bool → m (Option Bool)
  texts : ν → Option (List Bytes) → m (Option (List Bytes))
  /-- Goes through the named values of a block; the result is `none` for a block that is left
  open. -/
  block : {σ : Type} → ν → σ → (σ → Bytes → ν → m σ) → m (Option σ)
  /-- What it means that a name is no setting. -/
  stranger : m Unit

variable {m : Type → Type} [Monad m] {ν : Type}

/-- Applies a named value. -/
def assignNamed {σ κ : Type} (r : ValueReader m ν) (ofName : Bytes → Option κ)
    (assign : σ → κ → ν → m σ) (s : σ) (name : Bytes) (v : ν) : m σ := do
  match ofName name with
  | some key => assign s key v
  | none =>
    r.stranger
    return s

def assignToken (r : ValueReader m ν) (s : TokenSettings) (key : TokenSetting) (v : ν) :
    m TokenSettings := do
  match key with
  | .stem => return { s with stem := ← r.text v s.stem }
  | .maxWidth => return { s with maxWidth := ← r.int v s.maxWidth }

def assignLayout (r : ValueReader m ν) (s : LayoutSettings) (key : LayoutSetting) (v : ν) :
    m LayoutSettings := do
  match key with
  | .printWidth => return { s with printWidth := ← r.int v s.printWidth }
  | .tabWidth => return { s with tabWidth := ← r.int v s.tabWidth }
  | .useTabs => return { s with useTabs := ← r.choice v s.useTabs }

/-- A vocabulary: which names stand for which settings. -/
structure Vocabulary where
  setting : Bytes → Option Setting
  token : Bytes → Option TokenSetting
  layout : Bytes → Option LayoutSetting

/-- Names stand for settings only as they are spelled. -/
def Vocabulary.exact : Vocabulary where
  setting name := settingNames.lookup name
  token name := tokenSettingNames.lookup name
  layout name := layoutSettingNames.lookup name

/-- The entry under a name, or else under one that differs in case only. -/
def lookupFolded {κ : Type} (names : List (Bytes × κ)) (name : Bytes) : Option κ :=
  (names.lookup name).orElse fun _ => (names.find? fun (n, _) => Text.eqFold (Text.Utf8.chars n) (Text.Utf8.chars name)).map (·.2)

/-- Names stand for settings in any case. -/
def Vocabulary.folded : Vocabulary where
  setting := lookupFolded settingNames
  token := lookupFolded tokenSettingNames
  layout := lookupFolded layoutSettingNames

def layoutBlock (w : Vocabulary) (r : ValueReader m ν) (s : Option LayoutSettings) (v : ν) :
    m (Option LayoutSettings) :=
  r.block v (s.getD {}) (assignNamed r w.layout (assignLayout r))

def tokenBlock (w : Vocabulary) (r : ValueReader m ν) (s : Option TokenSettings) (v : ν) :
    m (Option TokenSettings) :=
  r.block v (s.getD {}) (assignNamed r w.token (assignToken r))

def assign (w : Vocabulary) (r : ValueReader m ν) (c : Config) (key : Setting) (v : ν) :
    m Config := do
  match key with
  | .command => return { c with command := ← r.text v c.command }
  | .arguments => return { c with arguments := ← r.texts v c.arguments }
  | .timeout => return { c with timeout := ← r.text v c.timeout }
  | .jobs => return { c with jobs := ← r.int v c.jobs }
  | .skipPhpPass => return { c with skipPhpPass := ← r.bool v c.skipPhpPass }
  | .included => return { c with included := ← r.texts v c.included }
  | .excluded => return { c with excluded := ← r.texts v c.excluded }
  | .tokens => return { c with tokens := ← tokenBlock w r c.tokens v }
  | .html => return { c with html := ← layoutBlock w r c.html v }
  | .php => return { c with php := ← layoutBlock w r c.php v }

/-- Applies a named value to a configuration. -/
def assignSetting (w : Vocabulary) (r : ValueReader m ν) (c : Config) (name : Bytes) (v : ν) :
    m Config :=
  assignNamed r w.setting (assign w r) c name v

/-- The configuration that named values describe, unless one is of the wrong kind. -/
def ofFields (w : Vocabulary) (r : ValueReader m ν) (fields : List (Bytes × ν)) : m Config :=
  fields.foldlM (fun c (name, v) => assignSetting w r c name v) {}

/-- Whether a name, or a name in a block, is a setting. -/
def Vocabulary.knows (w : Vocabulary) : List Bytes → Bool
  | [name] => (w.setting name).isSome
  | [block, name] =>
    match w.setting block with
    | some .tokens => (w.token name).isSome
    | some .html | some .php => (w.layout name).isSome
    | _ => false
  | _ => false

end Stencil.Config
