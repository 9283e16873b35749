import DocIndex.Proofs.Json
import DocIndex.Proofs.Version
import DocIndex.Release
import Mathlib.Data.List.Forall2

/-!
Which JSON is read as a catalog listing, and which of its versions are kept. Whether a listing is
read does not depend on its versions being release numbers.
-/
namespace DocIndex

namespace Listing

/-- JSON of a listing with this identifier and these texts of versions: an object, where members of
other keys are passed over, or an array of the two. -/
inductive Served : Json → Text → List Text → Prop where
  | object {members : List (Option Text × Json)} {identifier : Text} {versions : List Text}
      (hkeys : ∀ m ∈ members, m.1 ≠ none)
      (hname : (members.filter fun m => m.1 = some "name".toList) =
        [(some "name".toList, .ofText identifier)])
      (hversions : (members.filter fun m => m.1 = some "versions".toList) =
        [(some "versions".toList, .array (versions.map .ofText))]) :
      Served (.object members) identifier versions
  | array {identifier : Text} {versions : List Text} :
      Served (.array [.ofText identifier, .array (versions.map .ofText)]) identifier versions

theorem served_iff {j : Json} {identifier : Text} {versions : List Text} :
    Served j identifier versions ↔ Json.record? [["name"], ["versions"]] j =
      some [some (.ofText identifier), some (.array (versions.map .ofText))] := by
  rw [Json.record?_eq_some_iff]
  constructor
  · rintro (⟨hkeys, hname, hversions⟩ | _)
    · exact .inl ⟨_, rfl, hkeys, Json.memberAt?_eq_some_iff.mpr hname,
        Json.memberAt?_eq_some_iff.mpr hversions⟩
    · exact .inr rfl
  · rintro (⟨members, rfl, hkeys, hname, hversions⟩ | rfl)
    · exact .object hkeys (Json.memberAt?_eq_some_iff.mp hname)
        (Json.memberAt?_eq_some_iff.mp hversions)
    · exact .array

theorem ofJson?_eq_some_iff {j : Json} {l : Listing} :
    Listing.ofJson? j = some l ↔ ∃ versions, Served j l.identifier versions ∧
      l.versions = versions.filterMap fun t => (Version.ofText t).toOption := by
  simp only [Listing.ofJson?, Option.bind_eq_bind, Option.bind_eq_some_iff, served_iff]
  constructor
  · rintro ⟨fields, hfields, h⟩
    split at h
    next x y =>
      simp only [Option.bind_eq_some_iff, Json.requiredText?, Option.bind_eq_some_iff,
        Json.text?_eq_some_iff, Json.list?_text?_eq_some_iff, Option.pure_def,
        Option.some.injEq] at h
      obtain ⟨identifier, ⟨_, rfl, rfl⟩, versions, ⟨_, rfl, rfl⟩, rfl⟩ := h
      exact ⟨versions, hfields, rfl⟩
    next => cases h
  · rintro ⟨versions, hfields, hversions⟩
    have hlist : Json.list? Json.text? (.array (versions.map .ofText)) = some versions :=
      Json.list?_text?_eq_some_iff.mpr rfl
    refine ⟨_, hfields, ?_⟩
    simp only [Json.requiredText?, Option.bind_some, Json.ofText, Json.text?, hlist, ← hversions]
    rfl

/-- The versions that are kept are those of the texts that are read, in order. -/
theorem forall₂_ofText_iff {ts : List Text} {vs : List Version} :
    List.Forall₂ (fun t v => Version.ofText t = .ok v)
      (ts.filter fun t => (Version.ofText t).isOk) vs ↔
        vs = ts.filterMap fun t => (Version.ofText t).toOption := by
  have hkept : List.Forall₂ (fun t v => Version.ofText t = .ok v)
      (ts.filter fun t => (Version.ofText t).isOk)
      (ts.filterMap fun t => (Version.ofText t).toOption) := by
    induction ts with
    | nil => exact .nil
    | cons t ts ih =>
      cases h : Version.ofText t <;>
        simpa [h, Except.isOk, Except.toBool, Except.toOption] using ih
  constructor
  · intro h
    refine List.right_unique_forall₂' (fun t v w hv hw => ?_) h hkept
    exact Except.ok.inj (hv.symm.trans hw)
  · rintro rfl
    exact hkept

end Listing

/-- The text format of release numbers. A text is read as three numerals with dots between them,
with blanks around it allowed, as long as no number is too large for its part. Each release number
is read back from its text, so different ones have different texts. Of the versions of a listing
those that are read are kept, in order, and whatever their texts are, the listing is read. -/
theorem Version.text_format :
    (∀ t v, ofText t = .ok v ↔
      Triple (Text.trim t) v.major.toNat v.minor.toNat v.patch.toNat) ∧
    (∀ t, (∃ v, ofText t = .ok v) ↔ ∃ major minor patch, Triple (Text.trim t) major minor patch ∧
      major ≤ 4294967295 ∧ minor ≤ 4294967295 ∧ patch ≤ 4294967295) ∧
    (∀ v, ofText v.text = .ok v) ∧
    (∀ v w : Version, v.text = w.text ↔ v = w) ∧
    (∀ j, (∃ l, Listing.ofJson? j = some l) ↔
      ∃ identifier texts, Listing.Served j identifier texts) ∧
    ∀ j l, Listing.ofJson? j = some l ↔ ∃ texts, Listing.Served j l.identifier texts ∧
      List.Forall₂ (fun t v => ofText t = .ok v) (texts.filter fun t => (ofText t).isOk)
        l.versions := by
  refine ⟨fun t v => ofText_eq_ok_iff, fun t => exists_ofText_eq_ok_iff, ofText_text,
    fun v w => text_injective.eq_iff, fun j => ⟨?_, ?_⟩, fun j l => ?_⟩
  · rintro ⟨l, hl⟩
    obtain ⟨texts, hserved, -⟩ := Listing.ofJson?_eq_some_iff.mp hl
    exact ⟨l.identifier, texts, hserved⟩
  · rintro ⟨identifier, texts, hserved⟩
    exact ⟨⟨identifier, _⟩, Listing.ofJson?_eq_some_iff.mpr ⟨texts, hserved, rfl⟩⟩
  · rw [Listing.ofJson?_eq_some_iff]
    simp only [Listing.forall₂_ofText_iff]

example : (Version.ofText " +4294967295.00.1\n").toOption = some ⟨4294967295, 0, 1⟩ := by decide

example : (Version.ofText "4294967296.0.1").toOption = none := by decide

end DocIndex
