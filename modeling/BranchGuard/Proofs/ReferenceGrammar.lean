import BranchGuard.Proofs.References
import Mathlib.Data.List.Basic

/-!
# The grammar of references

A text has the form of a reference (`ActorReference.IsWritten`) if it is a slash and one or two
segments with a slash between them, where a segment holds no slash and is not blank.  These texts
are read and no others, and reading is the inverse of writing on the references whose parts can
stand in a text (`ActorReference.IsProper`); a text that is refused is named in the error
(`ActorReference.reading_inverts_writing`).

For reported actors this says what becomes of them in a list of references.  With a plain owner and
plain names, a user and an app are read back as they were reported, and so is a team unless its
organization is `app`: the first segment of its reference then marks an app, and the team is taken
for the app of the same name (`Actor.takenFor`).  Two reported lists have the same references
exactly if they hold the same actors up to this one confusion (`normalizeActors_readBack`).
-/

namespace BranchGuard

open Desired (readReference)

namespace Text

variable {separator : Char}

theorem not_mem_of_mem_segments {path part : List Char} (member : part ∈ segments separator path) :
    separator ∉ part := by
  induction path generalizing part with
  | nil =>
      rcases List.mem_singleton.mp member with rfl
      exact List.not_mem_nil
  | cons c rest ih =>
      simp only [segments] at member
      split at member
      next =>
        rcases List.mem_cons.mp member with rfl | member
        · exact List.not_mem_nil
        · exact ih member
      next differs =>
        cases parts : segments separator rest with
        | nil => exact absurd parts (segments_ne_nil rest)
        | cons first others =>
            rw [parts] at member ih
            rcases List.mem_cons.mp member with rfl | member
            · have absent := ih (List.mem_cons_self ..)
              simp [absent, Ne.symm differs]
            · exact ih (List.mem_cons_of_mem _ member)

end Text

namespace ActorReference

/-- The form of a reference: a slash, and one or two plain segments with a slash between them. -/
def IsWritten (text : String) : Prop :=
  ∃ parts : List String, (parts.length = 1 ∨ parts.length = 2) ∧
    (∀ part ∈ parts, Text.IsPlain part) ∧
    text.toList = '/' :: List.intercalate ['/'] (parts.map String.toList)

/-- The parts of the reference are plain, and no team belongs to the organization `app`. -/
def IsProper : ActorReference → Prop
  | .user login => Text.IsPlain login
  | .team organization slug =>
    Text.IsPlain organization ∧ Text.IsPlain slug ∧ organization ≠ appSegment
  | .app slug => Text.IsPlain slug

theorem isPlain_appSegment : Text.IsPlain appSegment := by
  decide

/-- A text is read through the plain segments behind its slash. -/
theorem parse_eq_ok_iff {text : String} {reference : ActorReference} :
    parse text = .ok reference ↔
      ∃ parts : List String, (∀ part ∈ parts, Text.IsPlain part) ∧
        text.toList = '/' :: List.intercalate ['/'] (parts.map String.toList) ∧
        ofSegments parts = .ok reference := by
  constructor
  · intro read
    rcases segments_of_parse read with ⟨path, rooted, noneBlank, made⟩
    refine ⟨(Text.segments '/' path).map String.ofList, ?_, ?_, made⟩
    · intro part member
      rcases List.mem_map.mp member with ⟨segment, isSegment, rfl⟩
      constructor
      case notBlank => exact noneBlank segment isSegment
      case noSlash =>
        rw [String.toList_ofList]
        exact Text.not_mem_of_mem_segments isSegment
    · have joined := text_ofSegments made
      rwa [text_of_parse read] at joined
  · rintro ⟨parts, plain, joined, read⟩
    exact parse_of_plain joined plain read

theorem exists_ofSegments_iff {parts : List String} :
    (∃ reference, ofSegments parts = .ok reference) ↔ parts.length = 1 ∨ parts.length = 2 := by
  constructor
  · rintro ⟨reference, read⟩
    rcases ofSegments_eq_ok read with
      ⟨login, rfl, -⟩ | ⟨slug, rfl, -⟩ | ⟨organization, slug, rfl, -, -⟩
    · exact Or.inl rfl
    · exact Or.inr rfl
    · exact Or.inr rfl
  · rintro (one | two)
    · rcases List.length_eq_one_iff.mp one with ⟨login, rfl⟩
      exact ⟨.user login, rfl⟩
    · rcases List.length_eq_two.mp two with ⟨organization, slug, rfl⟩
      by_cases isApp : organization = appSegment
      · exact ⟨.app slug, if_pos isApp⟩
      · exact ⟨.team organization slug, if_neg isApp⟩

/-- Plain segments make up a proper reference, and every proper reference. -/
theorem isProper_iff {reference : ActorReference} :
    reference.IsProper ↔
      ∃ parts : List String, (∀ part ∈ parts, Text.IsPlain part) ∧
        ofSegments parts = .ok reference := by
  constructor
  · intro proper
    cases reference with
    | user login =>
        have loginPlain : Text.IsPlain login := proper
        exact ⟨[login], by simp [loginPlain], rfl⟩
    | team organization slug =>
        rcases proper with ⟨organizationPlain, slugPlain, notApp⟩
        exact ⟨[organization, slug], by simp [organizationPlain, slugPlain], if_neg notApp⟩
    | app slug =>
        have slugPlain : Text.IsPlain slug := proper
        exact ⟨[appSegment, slug], by simp [isPlain_appSegment, slugPlain], rfl⟩
  · rintro ⟨parts, plain, read⟩
    rcases ofSegments_eq_ok read with
      ⟨login, rfl, rfl⟩ | ⟨slug, rfl, rfl⟩ | ⟨organization, slug, rfl, notApp, rfl⟩
    · exact plain login (by simp)
    · exact plain slug (by simp)
    · exact ⟨plain organization (by simp), plain slug (by simp), notApp⟩

/-- What is read is proper and written as it was, and every proper reference is read. -/
theorem readReference_eq_ok_iff {text : String} {reference : ActorReference} :
    readReference text = .ok reference ↔ reference.IsProper ∧ reference.text = text := by
  rw [Desired.readReference_eq_ok]
  constructor
  · intro read
    refine ⟨?_, text_of_parse read⟩
    rcases parse_eq_ok_iff.mp read with ⟨parts, plain, -, made⟩
    exact isProper_iff.mpr ⟨parts, plain, made⟩
  · rintro ⟨proper, rfl⟩
    rcases isProper_iff.mp proper with ⟨parts, plain, made⟩
    exact parse_eq_ok_iff.mpr ⟨parts, plain, text_ofSegments made, made⟩

theorem exists_read_iff {text : String} :
    (∃ reference, readReference text = .ok reference) ↔ IsWritten text := by
  simp only [Desired.readReference_eq_ok, parse_eq_ok_iff, IsWritten, ← exists_ofSegments_iff]
  constructor
  · rintro ⟨reference, parts, plain, joined, made⟩
    exact ⟨parts, ⟨reference, made⟩, plain, joined⟩
  · rintro ⟨parts, ⟨reference, made⟩, plain, joined⟩
    exact ⟨reference, parts, plain, joined, made⟩

/--
A text is read exactly if it has the form of a reference, and refused otherwise with an error that
names it.  What is read from a text is written as that text, so no two texts are read alike, and a
reference is read from its written form exactly if it is proper.
-/
theorem reading_inverts_writing (text : String) :
    ((∃ reference, readReference text = .ok reference) ↔ IsWritten text) ∧
      (∀ reference, readReference text = .ok reference ↔
        reference.IsProper ∧ reference.text = text) ∧
      (¬ IsWritten text ↔ ∃ fault : ReferenceFault,
        readReference text = .error (.invalidReference text fault.reason)) := by
  refine ⟨exists_read_iff, fun _ => readReference_eq_ok_iff, ?_⟩
  rw [← exists_read_iff]
  constructor
  · intro unread
    cases read : readReference text with
    | ok reference => exact absurd ⟨reference, read⟩ unread
    | error cause =>
        rcases Desired.readReference_eq_error read with ⟨fault, -, rfl⟩
        exact ⟨fault, rfl⟩
  · rintro ⟨fault, refused⟩ ⟨reference, read⟩
    rw [refused] at read
    cases read

/-- A segment of an ideographic space is blank, and one of a byte order mark is not. -/
example :
    readReference "/\u3000/core" =
        .error (.invalidReference "/\u3000/core" "contains an empty segment") ∧
      readReference "/\ufeff/core" = .ok (.team "\ufeff" "core") :=
  ⟨rfl, rfl⟩

end ActorReference

/-! ## References to reported actors -/

namespace Actor

/-- The actor that a reference to the reported actor is read as. -/
def takenFor (owner : String) : Actor → Actor
  | .team slug => if owner = ActorReference.appSegment then .app slug else .team slug
  | .user login => .user login
  | .app slug => .app slug

/-- Only a team of the organization `app` is taken for another actor. -/
theorem takenFor_eq_self_iff {owner : String} {actor : Actor} :
    actor.takenFor owner = actor ↔
      ¬ (owner = ActorReference.appSegment ∧ ∃ slug, actor = .team slug) := by
  cases actor with
  | team slug => by_cases isApp : owner = ActorReference.appSegment <;> simp [takenFor, isApp]
  | user login => simp [takenFor]
  | app slug => simp [takenFor]

end Actor

namespace ActorReference

theorem ofActor_injective (owner : String) : Function.Injective (ofActor owner) := by
  intro first second same
  cases first <;> cases second <;> simp_all [ofActor]

/-- The confusion does not show in the written form. -/
theorem text_ofActor_takenFor (owner : String) (actor : Actor) :
    (ofActor owner (actor.takenFor owner)).text = (ofActor owner actor).text := by
  cases actor with
  | team slug =>
      by_cases isApp : owner = appSegment
      · simp [Actor.takenFor, ofActor, text, isApp]
      · simp [Actor.takenFor, isApp]
  | user login => rfl
  | app slug => rfl

theorem isProper_ofActor_takenFor {owner : String} {actor : Actor}
    (ownerPlain : Text.IsPlain owner) (plain : Text.IsPlain actor.name) :
    (ofActor owner (actor.takenFor owner)).IsProper := by
  cases actor with
  | team slug =>
      by_cases isApp : owner = appSegment
      · rw [Actor.takenFor, if_pos isApp]
        exact plain
      · rw [Actor.takenFor, if_neg isApp]
        exact ⟨ownerPlain, plain, isApp⟩
  | user login => exact plain
  | app slug => exact plain

/-- What the reference to a reported actor with a plain name is read as. -/
theorem readReference_text_ofActor {owner : String} {actor : Actor}
    (ownerPlain : Text.IsPlain owner) (plain : Text.IsPlain actor.name) :
    readReference (ofActor owner actor).text = .ok (ofActor owner (actor.takenFor owner)) := by
  apply readReference_eq_ok_iff.mpr
  exact ⟨isProper_ofActor_takenFor ownerPlain plain, text_ofActor_takenFor owner actor⟩

/-- Two reported actors have one reference exactly if they are taken for the same actor. -/
theorem text_ofActor_eq_iff {owner : String} {first second : Actor}
    (ownerPlain : Text.IsPlain owner) (firstPlain : Text.IsPlain first.name)
    (secondPlain : Text.IsPlain second.name) :
    (ofActor owner first).text = (ofActor owner second).text ↔
      first.takenFor owner = second.takenFor owner := by
  constructor
  · intro sameText
    have read := readReference_text_ofActor ownerPlain firstPlain
    rw [sameText, readReference_text_ofActor ownerPlain secondPlain] at read
    exact (ofActor_injective owner (Except.ok.inj read)).symm
  · intro same
    rw [← text_ofActor_takenFor owner first, same, text_ofActor_takenFor]

end ActorReference

end BranchGuard
