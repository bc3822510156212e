import Stencil.Bytes

/-! Slash-separated paths, as texts. -/
namespace Stencil.Path

def slash : UInt8 := 0x2F

def dot : Bytes := [0x2E]

def dotDot : Bytes := [0x2E, 0x2E]

def isAbsolute (p : Bytes) : Bool := p.head? == some slash

/-- The named elements between slashes. -/
def elements (p : Bytes) : List Bytes := (Bytes.splitByte slash p).filter (!·.isEmpty)

/-- One element onto a stack of elements, the last on top: `.` does nothing and `..` takes one
away. At the root nothing is left to take away; a relative path keeps the `..`. -/
def push (absolute : Bool) (stack : List Bytes) (element : Bytes) : List Bytes :=
  if element = dot then stack
  else if element = dotDot then
    match stack with
    | [] => if absolute then [] else [dotDot]
    | top :: below => if top = dotDot then dotDot :: stack else below
  else element :: stack

/-- The elements that are left when `.` and `..` are worked out. -/
def resolved (p : Bytes) : List Bytes :=
  ((elements p).foldl (push (isAbsolute p)) []).reverse

/-- The path made of some elements; none at all make `.` or the root. -/
def ofElements (absolute : Bool) (es : List Bytes) : Bytes :=
  if absolute then slash :: Bytes.joinWith [slash] es
  else if es.isEmpty then dot
  else Bytes.joinWith [slash] es

/-- The shortest path equal to this one by its text alone. -/
def clean (p : Bytes) : Bytes := ofElements (isAbsolute p) (resolved p)

/-- Everything up to the last slash, cleaned. -/
def dir (p : Bytes) : Bytes := clean (p.reverse.dropWhile (· != slash)).reverse

/-- The last element; the root's is the slash and an empty path's is `.`. -/
def base (p : Bytes) : Bytes :=
  if p.isEmpty then dot
  else
    let trimmed := Bytes.trimRight (· == slash) p
    if trimmed.isEmpty then [slash] else (trimmed.reverse.takeWhile (· != slash)).reverse

/-- Joins the non-empty parts and cleans the result. -/
def join (parts : List Bytes) : Bytes :=
  let parts := parts.filter (!·.isEmpty)
  if parts.isEmpty then [] else clean (Bytes.joinWith [slash] parts)

/-- From the last point of the last element on. -/
def extension (p : Bytes) : Bytes :=
  let last := p.reverse.takeWhile (· != slash)
  if last.contains 0x2E then 0x2E :: (last.takeWhile (· != 0x2E)).reverse else []

/-- Drops what two lists start with in common. -/
def dropCommon : List Bytes → List Bytes → List Bytes × List Bytes
  | a :: as, b :: bs => if a = b then dropCommon as bs else (a :: as, b :: bs)
  | as, bs => (as, bs)

/-- The path from `origin` to `target`, if the texts alone tell it. -/
def relative? (origin target : Bytes) : Option Bytes :=
  if isAbsolute (clean origin) != isAbsolute (clean target) then none
  else
    let (up, down) := dropCommon (resolved origin) (resolved target)
    if up.head? = some dotDot then none
    else some (ofElements false (up.map (fun _ => dotDot) ++ down))

/-- A directory and those above it, up to the one that is its own parent. The fuel bounds their
number. -/
def ancestorsAux : (fuel : Nat) → Bytes → List Bytes
  | 0, d => [d]
  | fuel + 1, d => if dir d = d then [d] else d :: ancestorsAux fuel (dir d)

/-- A directory and those above it, the nearest first. Going up shortens a path, but for the last
step to `.`. -/
def ancestors (d : Bytes) : List Bytes := ancestorsAux (d.length + 1) d

example : clean "/site/../site//a/./b/" = Bytes.ofString "/site/a/b" := by decide
example : clean "../../a/.." = Bytes.ofString "../.." := by decide
example : dir "/a" = Bytes.ofString "/" := by decide
example : dir "a" = Bytes.ofString "." := by decide
example : ancestors "/a/b" = [Bytes.ofString "/a/b", Bytes.ofString "/a", Bytes.ofString "/"] := by decide
example : relative? "/s" "/s/d/a" = some (Bytes.ofString "d/a") := by decide
example : extension "a.b/c.tar.gz" = Bytes.ofString ".gz" := by decide

end Stencil.Path
