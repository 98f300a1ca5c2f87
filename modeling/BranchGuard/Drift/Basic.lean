import BranchGuard.Desired.Basic
import BranchGuard.Text.Canonical

/-!
# Drift

A `Drift` lists the policy fields in which two desired rules differ, with what each of them holds.
It is the comparison of two `views`: a field is seen as a set of texts, an opinion, or a count that
may be absent, and two rules differ in a field when they show it differently.

Since a list is seen as a set, its order and its repetitions never make a difference, and an empty
list is the same as none.  Pattern, owner and repository are no policy and are not compared.
-/

namespace BranchGuard

/-- The fields of a rule that are policy. -/
inductive PolicyField where
  | allowances (list : AllowanceList)
  | flag (flag : Flag)
  | reviewCount
  | contexts
deriving DecidableEq, Repr

namespace PolicyField

/-- All policy fields, in the order in which a drift lists them. -/
def all : List PolicyField :=
  AllowanceList.all.map .allowances ++ Flag.all.map .flag ++ [.reviewCount, .contexts]

/-- The name of the field in the written forms of a rule. -/
def name : PolicyField → String
  | .allowances list => list.name
  | .flag policy => policy.name
  | .reviewCount => "requiredApprovingReviewCount"
  | .contexts => "requiredStatusCheckContexts"

end PolicyField

/-- What a rule shows in a policy field. -/
inductive FieldView where
  /-- A set of texts by its canonical list. -/
  | set (members : List String)
  | opinion (opinion : Opinion)
  | count (count : Option UInt8)
deriving DecidableEq, Repr

/-- The view in words. -/
def FieldView.text : FieldView → String
  | .set members => "[" ++ ", ".intercalate members ++ "]"
  | .opinion value => value.text
  | .count none => "unset"
  | .count (some value) => toString value.toNat

namespace Desired

/-- What the rule shows in a policy field. -/
def view (desired : Desired) : PolicyField → FieldView
  | .allowances list => .set (Text.canonical (desired.allowances.get list))
  | .flag flag => .opinion (desired.flags.get flag)
  | .reviewCount => .count desired.reviewCount
  | .contexts => .set (Text.canonical desired.contexts)

end Desired

/-- A policy field in which two rules differ, and what each of them shows there. -/
structure DriftEntry where
  field : PolicyField
  desired : FieldView
  current : FieldView
deriving DecidableEq, Repr

/-- The entry in words. -/
def DriftEntry.text (entry : DriftEntry) : String :=
  entry.field.name ++ ": desired " ++ entry.desired.text ++ ", observed " ++ entry.current.text

/-- The policy fields in which two rules differ. -/
structure Drift where
  entries : List DriftEntry
deriving DecidableEq, Repr

namespace Drift

/-- The entry for one field, if the rules differ there. -/
def difference? (desired current : Desired) (field : PolicyField) : Option DriftEntry :=
  if desired.view field = current.view field then none
  else some ⟨field, desired.view field, current.view field⟩

/-- The drift between a desired and a current rule. -/
def between (desired current : Desired) : Drift :=
  ⟨PolicyField.all.filterMap (difference? desired current)⟩

/-- Whether there is no difference. -/
def isEmpty (drift : Drift) : Bool :=
  drift.entries.isEmpty

/-- Whether a field of this name differs. -/
def contains (drift : Drift) (name : String) : Bool :=
  drift.entries.any fun entry => entry.field.name == name

/-- The drift in words, one line for each field. -/
def text (drift : Drift) : String :=
  "\n".intercalate (drift.entries.map DriftEntry.text)

end Drift

end BranchGuard
