import BranchGuard.Actor
import BranchGuard.Desired.Basic

/-!
# Reading references

A text that can be read is the written form of what was read (`text_of_parse`), so two references
that are read alike are written alike.  The way there leads through the segments of a path: joined
again they are the path, and none of them holds a separator.

The reference to a reported actor need not be read back as that actor.  A login that holds a slash
can read as a team or as an app, and a team of an organization `app` reads as an app.  Unless a
login reads as a team (`ActorReference.ReadsAsTeam`), what can be read is read as the reported actor
or as an app (`parse_text_ofActor`).  Names that are not blank and hold no slash are read back
from the text that they make up (`parse_of_plain`).
-/

namespace BranchGuard

namespace Text

variable {separator : Char}

theorem segments_ne_nil (path : List Char) : segments separator path ≠ [] := by
  cases path with
  | nil => simp [segments]
  | cons c rest =>
      simp only [segments]
      split
      · simp
      · split <;> simp

/-- The segments of two paths with a separator between them. -/
theorem segments_append (first second : List Char) :
    segments separator (first ++ separator :: second) =
      segments separator first ++ segments separator second := by
  induction first with
  | nil => simp [segments]
  | cons c rest ih =>
      simp only [List.cons_append, segments, ih]
      split
      · rfl
      · cases parts : segments separator rest with
        | nil => exact absurd parts (segments_ne_nil rest)
        | cons part others => rfl

/-- A path without separators is its only segment. -/
theorem segments_of_not_mem {path : List Char} (absent : separator ∉ path) :
    segments separator path = [path] := by
  induction path with
  | nil => rfl
  | cons c rest ih =>
      simp only [List.mem_cons, not_or] at absent
      simp [segments, Ne.symm absent.1, ih absent.2]

/-- The segments with separators between them are the path again. -/
theorem intercalate_segments (path : List Char) :
    List.intercalate [separator] (segments separator path) = path := by
  induction path with
  | nil => rfl
  | cons c rest ih =>
      simp only [segments]
      split
      next isSeparator =>
        rw [List.intercalate_cons_of_ne_nil (segments_ne_nil rest), ih, isSeparator]
        rfl
      next =>
        cases parts : segments separator rest with
        | nil => exact absurd parts (segments_ne_nil rest)
        | cons part others =>
            rw [parts] at ih
            simp only
            cases others with
            | nil =>
                rw [List.intercalate_singleton] at ih ⊢
                rw [ih]
            | cons second others =>
                rw [List.intercalate_cons_cons] at ih ⊢
                rw [← ih]
                rfl

/-- Parts without separators are the segments of the path that is joined from them. -/
theorem segments_intercalate {separator : Char} {parts : List (List Char)} (nonempty : parts ≠ [])
    (absent : ∀ part ∈ parts, separator ∉ part) :
    segments separator (List.intercalate [separator] parts) = parts := by
  induction parts with
  | nil => exact absurd rfl nonempty
  | cons part others ih =>
      have isPart := segments_of_not_mem (absent part (List.mem_cons_self ..))
      cases others with
      | nil =>
          rw [List.intercalate_singleton]
          exact isPart
      | cons second others =>
          rw [List.intercalate_cons_cons, List.append_assoc, List.singleton_append,
            segments_append, isPart, ih (List.cons_ne_nil _ _)]
          · rfl
          · intro other member
            exact absent other (List.mem_cons_of_mem _ member)

/-- A name that is not blank and holds no slash. -/
structure IsPlain (name : String) : Prop where
  notBlank : isBlank name = false
  noSlash : '/' ∉ name.toList

instance (name : String) : Decidable (IsPlain name) :=
  decidable_of_iff (isBlank name = false ∧ '/' ∉ name.toList)
    ⟨fun both => ⟨both.1, both.2⟩, fun plain => ⟨plain.notBlank, plain.noSlash⟩⟩

end Text

/-- The name that an actor is reported by. -/
def Actor.name : Actor → String
  | .team slug => slug
  | .user login => login
  | .app slug => slug

namespace ActorReference

/-- The path behind the slash and its segments, for a text that is read as a reference. -/
theorem segments_of_parse {text : String} {reference : ActorReference}
    (read : parse text = .ok reference) :
    ∃ path, text.toList = '/' :: path ∧
      (∀ segment ∈ Text.segments '/' path, Text.isBlank (String.ofList segment) = false) ∧
      ofSegments ((Text.segments '/' path).map String.ofList) = .ok reference := by
  unfold parse at read
  split at read
  next path rooted =>
    simp only at read
    split at read
    next => cases read
    next noneBlank => exact ⟨path, rooted, by simpa using noneBlank, read⟩
  next => cases read

/-- The segments that a reference is read from. -/
theorem ofSegments_eq_ok {parts : List String} {reference : ActorReference}
    (read : ofSegments parts = .ok reference) :
    (∃ login, parts = [login] ∧ reference = .user login) ∨
      (∃ slug, parts = [appSegment, slug] ∧ reference = .app slug) ∨
      (∃ organization slug, parts = [organization, slug] ∧ organization ≠ appSegment ∧
        reference = .team organization slug) := by
  unfold ofSegments at read
  split at read
  next login =>
    exact Or.inl ⟨login, rfl, (Except.ok.inj read).symm⟩
  next organization slug =>
    split at read
    next isApp =>
      subst isApp
      exact Or.inr (Or.inl ⟨slug, rfl, (Except.ok.inj read).symm⟩)
    next notApp =>
      exact Or.inr (Or.inr ⟨organization, slug, rfl, notApp, (Except.ok.inj read).symm⟩)
  next => simp at read

/-- The written form is a slash and the segments with slashes between them. -/
theorem text_ofSegments {parts : List String} {reference : ActorReference}
    (read : ofSegments parts = .ok reference) :
    reference.text.toList = '/' :: List.intercalate ['/'] (parts.map String.toList) := by
  rcases ofSegments_eq_ok read with
    ⟨login, rfl, rfl⟩ | ⟨slug, rfl, rfl⟩ | ⟨organization, slug, rfl, -, rfl⟩ <;>
    simp [text, String.toList_append]

/-- A text that can be read is the written form of what was read. -/
theorem text_of_parse {text : String} {reference : ActorReference}
    (read : parse text = .ok reference) :
    reference.text = text := by
  rcases segments_of_parse read with ⟨path, rooted, -, parts⟩
  have unpacked :
      ((Text.segments '/' path).map String.ofList).map String.toList =
        Text.segments '/' path := by
    simp
  apply String.toList_injective
  rw [text_ofSegments parts, unpacked, Text.intercalate_segments, rooted]

/-- Two paths with a slash between them are read only if neither holds a slash itself. -/
theorem ofSegments_of_two {first second : String} {reference : ActorReference}
    (read : ofSegments
      ((Text.segments '/' (first.toList ++ '/' :: second.toList)).map String.ofList) =
        .ok reference) :
    ofSegments [first, second] = .ok reference := by
  have firstJoined : List.intercalate ['/'] (Text.segments '/' first.toList) = first.toList :=
    Text.intercalate_segments _
  have secondJoined :
      List.intercalate ['/'] (Text.segments '/' second.toList) = second.toList :=
    Text.intercalate_segments _
  rw [Text.segments_append] at read
  cases firstParts : Text.segments '/' first.toList with
  | nil => exact absurd firstParts (Text.segments_ne_nil _)
  | cons part others =>
      cases secondParts : Text.segments '/' second.toList with
      | nil => exact absurd secondParts (Text.segments_ne_nil _)
      | cons part' others' =>
          rw [firstParts] at firstJoined read
          rw [secondParts] at secondJoined read
          have few : others.length + others'.length = 0 := by
            rcases ofSegments_eq_ok read with
              ⟨login, parts, -⟩ | ⟨slug, parts, -⟩ | ⟨organization, slug, parts, -, -⟩ <;>
              have count := congrArg List.length parts <;>
              simp at count <;> omega
          have noOthers : others = [] := List.eq_nil_of_length_eq_zero (by omega)
          have noOthers' : others' = [] := List.eq_nil_of_length_eq_zero (by omega)
          subst noOthers noOthers'
          rw [List.intercalate_singleton] at firstJoined secondJoined
          simpa [firstJoined, secondJoined] using read

/-- The reference to a user with this login is read as one to a team. -/
def ReadsAsTeam (login : String) : Prop :=
  ∃ organization slug, parse (text (.user login)) = .ok (.team organization slug)

/--
The reference to a reported actor, if it can be read, is read as that actor or as an app, unless the
actor is a user whose login reads as a team.
-/
theorem parse_text_ofActor {owner : String} {actor : Actor} {reference : ActorReference}
    (read : parse (ofActor owner actor).text = .ok reference)
    (noTeam : ∀ login, actor = .user login → ¬ ReadsAsTeam login) :
    reference = ofActor owner actor ∨ reference.isApp := by
  rcases segments_of_parse read with ⟨path, rooted, -, parts⟩
  cases actor with
  | team slug =>
      have isPath : path = owner.toList ++ '/' :: slug.toList := by
        simpa [ofActor, text, String.toList_append] using rooted.symm
      subst isPath
      have split := ofSegments_of_two parts
      rcases ofSegments_eq_ok split with
        ⟨login, names, -⟩ | ⟨slug, -, rfl⟩ | ⟨organization, slug', names, -, rfl⟩
      · simp at names
      · exact Or.inr rfl
      · left
        simp only [List.cons.injEq, and_true] at names
        rw [ofActor, names.1, names.2]
  | user login =>
      cases reference with
      | user other =>
          have sameText : (user other).text = (user login).text := text_of_parse read
          have sameLogin : other = login := by
            simpa [text] using sameText
          left
          rw [sameLogin, ofActor]
      | team organization slug => exact absurd ⟨organization, slug, read⟩ (noTeam login rfl)
      | app slug => exact Or.inr rfl
  | app slug =>
      have isPath : path = appSegment.toList ++ '/' :: slug.toList := by
        simpa [ofActor, text, String.toList_append] using rooted.symm
      subst isPath
      have split := ofSegments_of_two parts
      right
      rcases ofSegments_eq_ok split with
        ⟨login, names, -⟩ | ⟨slug, -, rfl⟩ | ⟨organization, slug', names, notApp, -⟩
      · simp at names
      · rfl
      · simp only [List.cons.injEq, and_true] at names
        exact absurd names.1.symm notApp

/-- Plain names with slashes between them are read as the reference that they make up. -/
theorem parse_of_plain {written : String} {parts : List String} {reference : ActorReference}
    (joined : written.toList = '/' :: List.intercalate ['/'] (parts.map String.toList))
    (plain : ∀ part ∈ parts, Text.IsPlain part) (read : ofSegments parts = .ok reference) :
    parse written = .ok reference := by
  have nonempty : parts.map String.toList ≠ [] := by
    intro isNil
    rw [List.map_eq_nil_iff.mp isNil] at read
    cases read
  have split : (Text.segments '/' (List.intercalate ['/'] (parts.map String.toList))).map
      String.ofList = parts := by
    rw [Text.segments_intercalate nonempty]
    · simp
    · intro part member
      rcases List.mem_map.mp member with ⟨name, isName, rfl⟩
      exact (plain name isName).noSlash
  have noneBlank : parts.any Text.isBlank = false := by
    rw [List.any_eq_false]
    intro part member
    rw [(plain part member).notBlank]
    exact Bool.false_ne_true
  unfold parse
  rw [joined]
  simp only [split, noneBlank]
  exact read

end ActorReference

/-- A failure that is put in other terms is a failure still. -/
theorem mapError_eq_ok {ε ε' α : Type} {failure : ε → ε'} {result : Except ε α} {value : α} :
    result.mapError failure = .ok value ↔ result = .ok value := by
  cases result with
  | ok found =>
      constructor
      · intro same
        cases same
        rfl
      · intro same
        cases same
        rfl
  | error cause =>
      constructor
      · intro same
        cases same
      · intro same
        cases same

namespace Desired

/-! ## Reading with the failure of the engine -/

theorem readReference_eq_ok {reference : String} {actor : ActorReference} :
    readReference reference = .ok actor ↔ ActorReference.parse reference = .ok actor :=
  mapError_eq_ok

theorem readReference_eq_error {reference : String} {cause : EngineError}
    (refused : readReference reference = .error cause) :
    ∃ fault, ActorReference.parse reference = .error fault ∧
      cause = .invalidReference reference fault.reason := by
  unfold readReference at refused
  cases read : ActorReference.parse reference with
  | ok actor =>
      rw [read] at refused
      cases refused
  | error fault =>
      rw [read] at refused
      exact ⟨fault, rfl, (Except.error.inj refused).symm⟩

end Desired

end BranchGuard
