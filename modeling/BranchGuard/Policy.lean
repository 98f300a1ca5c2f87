/-!
# Policy flags and allowance lists

A branch protection rule has nine flags that a caller may set and three lists of exempt actors.
Both are families: `Flags α` holds a value for each `Flag`, `Allowances α` a value for each
`AllowanceList`.  The same families serve the desired rule (opinions, references), the reported
rule (truth values, connections of actors) and a mutation (truth values, node IDs).

An `Opinion` is a truth value or none at all.  Having no opinion is not the same as `off`: it
leaves the flag out of a mutation and lets it be filled in from what GitHub reports.
-/

namespace BranchGuard

/-- What a caller thinks about a flag. -/
inductive Opinion where
  | unset
  | off
  | on
deriving DecidableEq, Repr, Inhabited

namespace Opinion

/-- Whether there is an opinion. -/
def isSet (opinion : Opinion) : Bool :=
  opinion != .unset

/-- Whether the flag is wanted on. -/
def isOn (opinion : Opinion) : Bool :=
  opinion == .on

/-- The opinion as a truth value that may be absent. -/
def toOption : Opinion → Option Bool
  | .unset => none
  | .off => some false
  | .on => some true

/-- The opinion that a truth value expresses, or none where there is no value. -/
def ofOption : Option Bool → Opinion
  | none => .unset
  | some false => .off
  | some true => .on

/-- The opinion in words. -/
def text : Opinion → String
  | .unset => "unset"
  | .off => "false"
  | .on => "true"

/-- The first of two opinions that is set. -/
def orElse (first second : Opinion) : Opinion :=
  if first.isSet then first else second

@[simp] theorem ofOption_toOption (opinion : Opinion) : ofOption opinion.toOption = opinion := by
  cases opinion <;> rfl

@[simp] theorem toOption_ofOption (value : Option Bool) : (ofOption value).toOption = value := by
  cases value with
  | none => rfl
  | some value => cases value <;> rfl

end Opinion

/-- The flags that a caller may set. -/
inductive Flag where
  | allowsDeletions
  | allowsForcePushes
  | dismissesStaleReviews
  | isAdminEnforced
  | requiresCodeOwnerReviews
  | requiresCommitSignatures
  | requiresConversationResolution
  | requiresLinearHistory
  | requiresStrictStatusChecks
deriving DecidableEq, Repr

namespace Flag

/-- All flags, in the order in which they are reported and compared. -/
def all : List Flag :=
  [.allowsDeletions, .allowsForcePushes, .dismissesStaleReviews, .isAdminEnforced,
   .requiresCodeOwnerReviews, .requiresCommitSignatures, .requiresConversationResolution,
   .requiresLinearHistory, .requiresStrictStatusChecks]

/-- The name of the flag in every written form of a rule. -/
def name : Flag → String
  | .allowsDeletions => "allowsDeletions"
  | .allowsForcePushes => "allowsForcePushes"
  | .dismissesStaleReviews => "dismissesStaleReviews"
  | .isAdminEnforced => "isAdminEnforced"
  | .requiresCodeOwnerReviews => "requiresCodeOwnerReviews"
  | .requiresCommitSignatures => "requiresCommitSignatures"
  | .requiresConversationResolution => "requiresConversationResolution"
  | .requiresLinearHistory => "requiresLinearHistory"
  | .requiresStrictStatusChecks => "requiresStrictStatusChecks"

@[simp] theorem mem_all (flag : Flag) : flag ∈ all := by
  cases flag <;> decide

end Flag

/-- A value for each flag. -/
structure Flags (α : Type) where
  allowsDeletions : α
  allowsForcePushes : α
  dismissesStaleReviews : α
  isAdminEnforced : α
  requiresCodeOwnerReviews : α
  requiresCommitSignatures : α
  requiresConversationResolution : α
  requiresLinearHistory : α
  requiresStrictStatusChecks : α
deriving DecidableEq, Repr

namespace Flags

variable {α β : Type}

/-- The value for one flag. -/
def get (flags : Flags α) : Flag → α
  | .allowsDeletions => flags.allowsDeletions
  | .allowsForcePushes => flags.allowsForcePushes
  | .dismissesStaleReviews => flags.dismissesStaleReviews
  | .isAdminEnforced => flags.isAdminEnforced
  | .requiresCodeOwnerReviews => flags.requiresCodeOwnerReviews
  | .requiresCommitSignatures => flags.requiresCommitSignatures
  | .requiresConversationResolution => flags.requiresConversationResolution
  | .requiresLinearHistory => flags.requiresLinearHistory
  | .requiresStrictStatusChecks => flags.requiresStrictStatusChecks

/-- The family with the value `f flag` for each flag. -/
def ofFn (f : Flag → α) : Flags α where
  allowsDeletions := f .allowsDeletions
  allowsForcePushes := f .allowsForcePushes
  dismissesStaleReviews := f .dismissesStaleReviews
  isAdminEnforced := f .isAdminEnforced
  requiresCodeOwnerReviews := f .requiresCodeOwnerReviews
  requiresCommitSignatures := f .requiresCommitSignatures
  requiresConversationResolution := f .requiresConversationResolution
  requiresLinearHistory := f .requiresLinearHistory
  requiresStrictStatusChecks := f .requiresStrictStatusChecks

@[simp] theorem get_ofFn (f : Flag → α) (flag : Flag) : (ofFn f).get flag = f flag := by
  cases flag <;> rfl

@[simp] theorem ofFn_get (flags : Flags α) : ofFn flags.get = flags := rfl

@[ext]
theorem ext_get {left right : Flags α} (h : ∀ flag, left.get flag = right.get flag) :
    left = right := by
  rw [← ofFn_get left, ← ofFn_get right, funext h]

/-- The family of the images. -/
def map (f : α → β) (flags : Flags α) : Flags β :=
  ofFn fun flag => f (flags.get flag)

@[simp] theorem get_map (f : α → β) (flags : Flags α) (flag : Flag) :
    (flags.map f).get flag = f (flags.get flag) := get_ofFn _ flag

/-- The same value for every flag. -/
def replicate (value : α) : Flags α :=
  ofFn fun _ => value

/-- The family with the value for one flag replaced. -/
def set (flags : Flags α) (flag : Flag) (value : α) : Flags α :=
  ofFn fun other => if other = flag then value else flags.get other

@[simp] theorem get_set (flags : Flags α) (flag : Flag) (value : α) (other : Flag) :
    (flags.set flag value).get other = if other = flag then value else flags.get other :=
  get_ofFn _ other

/-- Reads a value for each flag in turn and fails with the first one that fails. -/
def mapM? (f : Flag → Option α) : Option (Flags α) := do
  return {
    allowsDeletions := ← f .allowsDeletions
    allowsForcePushes := ← f .allowsForcePushes
    dismissesStaleReviews := ← f .dismissesStaleReviews
    isAdminEnforced := ← f .isAdminEnforced
    requiresCodeOwnerReviews := ← f .requiresCodeOwnerReviews
    requiresCommitSignatures := ← f .requiresCommitSignatures
    requiresConversationResolution := ← f .requiresConversationResolution
    requiresLinearHistory := ← f .requiresLinearHistory
    requiresStrictStatusChecks := ← f .requiresStrictStatusChecks }

theorem mapM?_some {f : Flag → Option α} {flags : Flags α}
    (h : ∀ flag, f flag = some (flags.get flag)) : mapM? f = some flags := by
  simp [mapM?, h, get]

end Flags

/-- The lists of actors that the engine reconciles. -/
inductive AllowanceList where
  | bypassForcePush
  | bypassPullRequest
  | push
deriving DecidableEq, Repr

namespace AllowanceList

/-- All lists, in the order in which they are compared and resolved. -/
def all : List AllowanceList :=
  [.bypassForcePush, .bypassPullRequest, .push]

/-- The name of the list in the desired and in the reported rule. -/
def name : AllowanceList → String
  | .bypassForcePush => "bypassForcePushAllowances"
  | .bypassPullRequest => "bypassPullRequestAllowances"
  | .push => "pushAllowances"

/-- The name under which a mutation takes the node IDs of the list. -/
def inputName : AllowanceList → String
  | .bypassForcePush => "bypassForcePushActorIds"
  | .bypassPullRequest => "bypassPullRequestActorIds"
  | .push => "pushActorIds"

@[simp] theorem mem_all (list : AllowanceList) : list ∈ all := by
  cases list <;> decide

end AllowanceList

/-- A value for each allowance list. -/
structure Allowances (α : Type) where
  bypassForcePush : α
  bypassPullRequest : α
  push : α
deriving DecidableEq, Repr

namespace Allowances

variable {α β : Type}

/-- The value for one list. -/
def get (allowances : Allowances α) : AllowanceList → α
  | .bypassForcePush => allowances.bypassForcePush
  | .bypassPullRequest => allowances.bypassPullRequest
  | .push => allowances.push

/-- The family with the value `f list` for each list. -/
def ofFn (f : AllowanceList → α) : Allowances α where
  bypassForcePush := f .bypassForcePush
  bypassPullRequest := f .bypassPullRequest
  push := f .push

@[simp] theorem get_ofFn (f : AllowanceList → α) (list : AllowanceList) :
    (ofFn f).get list = f list := by
  cases list <;> rfl

@[simp] theorem ofFn_get (allowances : Allowances α) : ofFn allowances.get = allowances := rfl

@[ext]
theorem ext_get {left right : Allowances α} (h : ∀ list, left.get list = right.get list) :
    left = right := by
  rw [← ofFn_get left, ← ofFn_get right, funext h]

/-- The family of the images. -/
def map (f : α → β) (allowances : Allowances α) : Allowances β :=
  ofFn fun list => f (allowances.get list)

@[simp] theorem get_map (f : α → β) (allowances : Allowances α) (list : AllowanceList) :
    (allowances.map f).get list = f (allowances.get list) := get_ofFn _ list

/-- The same value for every list. -/
def replicate (value : α) : Allowances α :=
  ofFn fun _ => value

/-- The three values in the order of `AllowanceList.all`. -/
def toList (allowances : Allowances α) : List α :=
  AllowanceList.all.map allowances.get

end Allowances

end BranchGuard
