import DocIndex.Proofs.Version
import DocIndex.Release

/-!
A catalog selects the listings of its updated packages. Listings address the releases they name,
different releases have different keys, and a key ends in a digit.
-/
namespace DocIndex

namespace Catalog

theorem mem_recent_iff {c : Catalog} {l : Listing} :
    l ∈ c.recent ↔ l ∈ c.listings ∧ l.identifier ∈ c.updated := by
  rw [recent, List.mem_filter, List.contains_iff_mem]

end Catalog

namespace Release

/-- A listing addresses the release of its user, its project and its first version. -/
theorem ofListing_eq_ok_iff {l : Listing} {r : Release} :
    ofListing l = .ok r ↔ l.identifier = r.user ++ '/' :: r.project ∧ '/' ∉ r.user ∧
      '/' ∉ r.project ∧ l.versions.head? = some r.version := by
  constructor
  · intro h
    unfold ofListing at h
    split at h
    next user project hsplit =>
      split at h
      next version rest hversions =>
        obtain rfl := Except.ok.inj h
        have hident : ['/'].intercalate (l.identifier.splitOn '/') = l.identifier :=
          List.intercalate_splitOn '/'
        have hpiece : ∀ p ∈ [user, project], '/' ∉ p := by
          intro p hp
          exact Text.not_mem_of_mem_splitOn (hsplit ▸ hp)
        rw [hsplit] at hident
        refine ⟨?_, hpiece user (by simp), hpiece project (by simp), by simp [hversions]⟩
        simpa [List.intercalate, List.intersperse] using hident.symm
      next => cases h
    next => cases h
  · rintro ⟨hident, huser, hproject, hversion⟩
    have hsplit : l.identifier.splitOn '/' = [r.user, r.project] := by
      rw [hident, List.splitOn_append_cons_self_of_not_mem huser,
        List.splitOn_eq_singleton hproject]
    obtain ⟨rest, hversions⟩ : ∃ rest, l.versions = r.version :: rest :=
      List.head?_eq_some_iff.mp hversion
    simp [ofListing, hsplit, hversions]

/-- What stands after a key and a slash is told apart from the key. -/
theorem identifier_append_inj {l m : Listing} {r q : Release} (hr : ofListing l = .ok r)
    (hq : ofListing m = .ok q) {t u : Text} :
    r.identifier ++ '/' :: t = q.identifier ++ '/' :: u ↔ r = q ∧ t = u := by
  obtain ⟨-, huser, hproject, -⟩ := ofListing_eq_ok_iff.mp hr
  obtain ⟨-, huser', hproject', -⟩ := ofListing_eq_ok_iff.mp hq
  have hversion : r.version.text = q.version.text ↔ r.version = q.version :=
    Version.text_injective.eq_iff
  have hparts : r = q ↔ r.user = q.user ∧ r.project = q.project ∧ r.version = q.version := by
    cases r
    cases q
    simp only [mk.injEq]
  simp only [identifier, List.append_assoc, List.cons_append]
  rw [Text.append_cons_inj huser huser', Text.append_cons_inj hproject hproject',
    Text.append_cons_inj r.version.slash_not_mem_text q.version.slash_not_mem_text, hversion,
    hparts, and_assoc, and_assoc]

/-- Releases that listings address have different keys. -/
theorem identifier_injOn {l m : Listing} {r q : Release} (hr : ofListing l = .ok r)
    (hq : ofListing m = .ok q) (h : r.identifier = q.identifier) : r = q := by
  have happend : r.identifier ++ '/' :: [] = q.identifier ++ '/' :: [] := by rw [h]
  exact ((identifier_append_inj hr hq).mp happend).1

/-- The identifier of a release ends in a digit, so only its start can be trimmed. -/
theorem exists_append_trim_identifier (r : Release) :
    ∃ before, r.identifier = before ++ Text.trim r.identifier ∧
      ∀ c ∈ before, Text.isBlank c = true := by
  obtain ⟨before, after, happend, hbefore, hafter⟩ :=
    Text.exists_append_trimWhile Text.isBlank r.identifier
  obtain ⟨digits, c, hpatch⟩ : ∃ digits c, Text.ofNat r.version.patch.toNat = digits ++ [c] :=
    (List.eq_nil_or_concat' _).resolve_left (Nat.toDigits_ne_nil)
  have hdigit : c.isDigit = true :=
    Nat.isDigit_of_mem_toDigits (by decide) (by decide) (hpatch ▸ List.mem_concat_self)
  have hlast : r.identifier.getLast? = some c := by
    have hconcat : r.identifier = r.user ++ '/' :: r.project ++ '/' ::
        (Text.ofNat r.version.major.toNat ++ '.' :: Text.ofNat r.version.minor.toNat ++
          '.' :: digits) ++ [c] := by
      simp [identifier, Version.text, hpatch]
    rw [hconcat, List.getLast?_concat]
  cases hnil : after.getLast? with
  | none =>
    obtain rfl := List.getLast?_eq_none_iff.mp hnil
    rw [List.append_nil] at happend
    exact ⟨before, happend, hbefore⟩
  | some d =>
    have hblank : Text.isBlank d = true := hafter d (List.mem_of_getLast? hnil)
    obtain rfl : d = c := by
      rw [happend] at hlast
      simpa [List.getLast?_append, hnil] using hlast
    rw [Text.isBlank_of_isDigit hdigit] at hblank
    cases hblank

end Release

end DocIndex
