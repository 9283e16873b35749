import DocIndex.Proofs.Release
import DocIndex.Site

/-!
Addresses on a package site. Different releases have their documentation at different addresses, so
have different values of them, and slashes at the end of the base address make no difference.
-/
namespace DocIndex

/-- A character that the text does not hold can be put in another's place and taken away again. -/
theorem Text.replaceChar_replaceChar {old new : Char} {t : Text} (h : new ∉ t) :
    replaceChar new old (replaceChar old new t) = t := by
  have hchar : ∀ c ∈ t, (if (if c = old then new else c) = new then old
      else if c = old then new else c) = c := by
    intro c hc
    have hnew : c ≠ new := fun hcn => h (hcn ▸ hc)
    by_cases hold : c = old <;> simp [hold, hnew]
  rw [replaceChar, replaceChar, List.map_map]
  exact (List.map_congr_left hchar).trans (List.map_id t)

namespace Name

variable {m n : Name}

theorem hash_not_mem_replaceChar {home : Text} (h : '#' ∉ home) :
    '#' ∉ Text.replaceChar '.' '-' home := by
  intro hmem
  obtain ⟨c, hc, heq⟩ := List.mem_map.mp hmem
  split at heq
  · exact absurd heq (by decide)
  · exact h (heq ▸ hc)

/-- Names in homes without hyphens and number signs have different places. -/
theorem anchor_inj (hm : '-' ∉ m.home ∧ '#' ∉ m.home) (hn : '-' ∉ n.home ∧ '#' ∉ n.home) :
    m.anchor = n.anchor ↔ m = n := by
  rw [anchor, anchor, Text.append_cons_inj (hash_not_mem_replaceChar hm.2)
    (hash_not_mem_replaceChar hn.2)]
  constructor
  · rintro ⟨hhome, hident⟩
    have hback := congrArg (Text.replaceChar '-' '.') hhome
    rw [Text.replaceChar_replaceChar hm.1, Text.replaceChar_replaceChar hn.1] at hback
    cases m
    cases n
    simp only [mk.injEq]
    exact ⟨hback, hident⟩
  · rintro rfl
    exact ⟨rfl, rfl⟩

example : (⟨"A.B", "x"⟩ : Name).anchor = (⟨"A-B", "x"⟩ : Name).anchor := by decide

end Name

namespace Release

section

variable {l m : Listing} {r q : Release} (hr : ofListing l = .ok r) (hq : ofListing m = .ok q)

include hr hq in
theorem pagesUrl_append_inj (base : Text) {t u : Text} :
    r.pagesUrl base ++ t = q.pagesUrl base ++ u ↔ r = q ∧ t = u := by
  simp only [pagesUrl, List.append_assoc, List.append_cancel_left_eq, List.cons_append,
    List.nil_append]
  exact identifier_append_inj hr hq

include hr hq in
/-- Different releases have their documentation at different addresses. -/
theorem docsUrl_inj (base : Text) : r.docsUrl base = q.docsUrl base ↔ r = q := by
  rw [docsUrl, docsUrl, pagesUrl_append_inj hr hq]
  exact and_iff_left rfl

include hr hq in
theorem valueUrl_inj (base : Text) {n k : Name} (hn : '-' ∉ n.home ∧ '#' ∉ n.home)
    (hk : '-' ∉ k.home ∧ '#' ∉ k.home) :
    r.valueUrl base n = q.valueUrl base k ↔ r = q ∧ n = k := by
  rw [valueUrl, valueUrl, pagesUrl_append_inj hr hq, Name.anchor_inj hn hk]

end

theorem dropEndWhile_append_slashes (base : Text) (k : Nat) :
    Text.dropEndWhile (· = '/') (base ++ List.replicate k '/') =
      Text.dropEndWhile (· = '/') base :=
  Text.dropEndWhile_append (fun _ hc => decide_eq_true (List.eq_of_mem_replicate hc)) base

/-- Different releases that listings address have different keys, and their documentation different
addresses under each base address; so have different values, as long as the homes have no hyphens
and no number signs. Slashes at the end of the base address change no address of the site. -/
theorem addresses_injective :
    (∀ {l m : Listing} {r q : Release}, ofListing l = .ok r → ofListing m = .ok q →
      (r.identifier = q.identifier ↔ r = q) ∧
      ∀ base, (r.docsUrl base = q.docsUrl base ↔ r = q) ∧
        ∀ n k : Name, '-' ∉ n.home ∧ '#' ∉ n.home → '-' ∉ k.home ∧ '#' ∉ k.home →
          (r.valueUrl base n = q.valueUrl base k ↔ r = q ∧ n = k)) ∧
    ∀ base k,
      (∀ r, docsUrl r (base ++ List.replicate k '/') = docsUrl r base) ∧
      (∀ r n, valueUrl r (base ++ List.replicate k '/') n = valueUrl r base n) ∧
      Site.listingsUrl (base ++ List.replicate k '/') = Site.listingsUrl base ∧
      Site.updatedUrl (base ++ List.replicate k '/') = Site.updatedUrl base := by
  constructor
  · intro l m r q hr hq
    refine ⟨⟨identifier_injOn hr hq, congrArg identifier⟩, fun base => ⟨docsUrl_inj hr hq base, ?_⟩⟩
    intro n k hn hk
    exact valueUrl_inj hr hq base hn hk
  · intro base k
    simp only [docsUrl, valueUrl, pagesUrl, Site.listingsUrl, Site.updatedUrl, Site.pageUrl,
      dropEndWhile_append_slashes, implies_true, and_self]

/-- The two releases differ in one digit, the two names have the same dotted form. -/
theorem addresses_injective_json :
    ofListing ⟨"elm/json", [⟨1, 1, 3⟩, ⟨1, 1, 2⟩]⟩ = .ok ⟨"elm", "json", ⟨1, 1, 3⟩⟩ ∧
    ofListing ⟨"elm/json", [⟨11, 1, 3⟩]⟩ = .ok ⟨"elm", "json", ⟨11, 1, 3⟩⟩ ∧
    ('-' ∉ "Json.Decode".toList ∧ '#' ∉ "Json.Decode".toList) ∧
    ('-' ∉ "Json".toList ∧ '#' ∉ "Json".toList) ∧
    docsUrl ⟨"elm", "json", ⟨1, 1, 3⟩⟩ "https://pkg.example" ≠
      docsUrl ⟨"elm", "json", ⟨11, 1, 3⟩⟩ "https://pkg.example" ∧
    valueUrl ⟨"elm", "json", ⟨1, 1, 3⟩⟩ "https://pkg.example" ⟨"Json.Decode", "map"⟩ ≠
      valueUrl ⟨"elm", "json", ⟨1, 1, 3⟩⟩ "https://pkg.example" ⟨"Json", "Decode.map"⟩ := by
  have hr : ofListing ⟨"elm/json", [⟨1, 1, 3⟩, ⟨1, 1, 2⟩]⟩ =
      .ok ⟨"elm", "json", ⟨1, 1, 3⟩⟩ := rfl
  have hq : ofListing ⟨"elm/json", [⟨11, 1, 3⟩]⟩ = .ok ⟨"elm", "json", ⟨11, 1, 3⟩⟩ := rfl
  have hdecode : '-' ∉ "Json.Decode".toList ∧ '#' ∉ "Json.Decode".toList := by decide
  have hjson : '-' ∉ "Json".toList ∧ '#' ∉ "Json".toList := by decide
  refine ⟨hr, hq, hdecode, hjson, ?_, ?_⟩
  · rw [Ne, ((addresses_injective.1 hr hq).2 _).1]
    decide
  · rw [Ne, ((addresses_injective.1 hr hr).2 _).2 _ _ hdecode hjson]
    decide

end Release

end DocIndex
