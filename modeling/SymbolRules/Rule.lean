import SymbolRules.Json.Basic
import SymbolRules.Rule.Walk
import SymbolRules.Violation

/-!
# Rules

A rule is a nonempty text together with the place of its first wildcard. Matching looks at the lengths
first, with that place at hand, and walks only along what passes.
-/

namespace SymbolRules

/-- One compiled rule. Two rules are equal when their texts are, as the text determines the rest. -/
structure Rule where
  text : String
  /-- The byte offset of the first `*`. -/
  wildcardAt : Option Nat
  text_ne_empty : text ≠ ""
  wildcardAt_eq : wildcardAt = (Utf8.encode text).findIdx? (· == Rule.wildcard)
deriving DecidableEq

/-- How much of its text a rule uses. -/
inductive Rule.Kind where
  /-- No wildcard: the whole text. -/
  | exact
  /-- The first wildcard ends the text: all before it. -/
  | leading
  /-- More text follows the first wildcard and is never looked at. -/
  | truncated
deriving DecidableEq, Repr

/-- The words that diagnostics use for a kind. -/
def Rule.Kind.name : Rule.Kind → String
  | .exact => "exact"
  | .leading => "prefix"
  | .truncated => "prefix(truncated)"

namespace Rule

/-- The rule of a nonempty text. -/
def ofText (text : String) (h : text ≠ "") : Rule where
  text := text
  wildcardAt := (Utf8.encode text).findIdx? (· == wildcard)
  text_ne_empty := h
  wildcardAt_eq := rfl

/-- The rule of a segment, if the segment is not empty. -/
def ofSegment? (segment : String) : Option Rule :=
  if h : segment = "" then none else some (ofText segment h)

/-- The rule of a segment that the caller promises is not empty. -/
def ofSegment (segment : String) : Except Violation Rule :=
  if h : segment = "" then .error .emptySegment else .ok (ofText segment h)

@[ext] theorem ext {r q : Rule} (h : r.text = q.text) : r = q := by
  cases r
  cases q
  simp_all

/-- The length of the text in bytes. -/
def size (r : Rule) : Nat := r.text.utf8ByteSize

/-- The kind of a rule, by the place of its first wildcard. -/
def kind (r : Rule) : Kind :=
  match r.wildcardAt with
  | none => .exact
  | some k => if k + 1 = r.size then .leading else .truncated

/-- Whether a candidate of `n` bytes can match: without a wildcard the lengths are equal, and with one
the candidate reaches it. -/
def admits (r : Rule) (n : Nat) : Bool :=
  match r.wildcardAt with
  | none => n == r.size
  | some k => k ≤ n

/-- Whether the rule matches a candidate given as bytes. -/
def acceptsBytes (r : Rule) (candidate : List UInt8) : Bool :=
  r.admits candidate.length && (walk (Utf8.encode r.text) candidate).accepts

/-- Whether the rule matches a candidate. -/
def accepts (r : Rule) (candidate : String) : Bool :=
  r.acceptsBytes (Utf8.encode candidate)

/-- The rule as a JSON object. -/
def toJson (r : Rule) : Json :=
  .obj [("text", .str r.text), ("wildcard_at", .ofNat? r.wildcardAt)]

end Rule

end SymbolRules
