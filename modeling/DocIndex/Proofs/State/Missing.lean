import DocIndex.Proofs.Release
import DocIndex.Proofs.State.Coherence

/-!
The listings that are missing from an index: of each identifier that has failed the listing that
failed first, unless a release of the package is held. Whether one is held is told by how the keys
start. The slash after the identifier keeps packages apart of which one name starts the other.
-/
namespace DocIndex

namespace Listing

/-- The listings whose identifier no earlier one has. -/
def firsts (ls : List Listing) : List Listing :=
  ls.eraseDupsBy fun l m => l.identifier == m.identifier

def place (ls : List Listing) (identifier : Text) : Nat :=
  ls.findIdx fun l => l.identifier = identifier

theorem firsts_cons_eq_cons_firsts (l : Listing) (ls : List Listing) :
    firsts (l :: ls) = l :: firsts (ls.filter fun m => m.identifier ≠ l.identifier) := by
  rw [firsts, List.eraseDupsBy_cons, firsts]
  simp only [beq_eq_false_iff_ne]

/-- Identifiers may be left out before or after. -/
theorem firsts_filter (p : Text → Bool) (ls : List Listing) :
    firsts (ls.filter fun m => p m.identifier) = (firsts ls).filter fun m => p m.identifier := by
  induction hn : ls.length using Nat.strong_induction_on generalizing ls with
  | _ n ih =>
    cases ls with
    | nil => rfl
    | cons l ls =>
      have hlt : (ls.filter fun m => m.identifier ≠ l.identifier).length < n := by
        have hle := List.length_filter_le (fun m => m.identifier ≠ l.identifier) ls
        rw [List.length_cons] at hn
        omega
      have hrest := ih _ hlt _ rfl
      rw [firsts_cons_eq_cons_firsts]
      cases hl : p l.identifier with
      | true =>
        simp only [List.filter_cons, hl, if_true]
        rw [firsts_cons_eq_cons_firsts, ← hrest, List.filter_filter, List.filter_filter]
        simp only [Bool.and_comm]
      | false =>
        simp only [List.filter_cons, hl, Bool.false_eq_true, if_false]
        rw [← hrest, List.filter_filter]
        congr 1
        refine List.filter_congr fun m _ => ?_
        by_cases hm : m.identifier = l.identifier
        · simp [hm, hl]
        · simp [hm]

theorem firsts_cons (l : Listing) (ls : List Listing) :
    firsts (l :: ls) = l :: (firsts ls).filter fun m => m.identifier ≠ l.identifier := by
  rw [firsts_cons_eq_cons_firsts]
  exact congrArg _ (firsts_filter (fun identifier => identifier ≠ l.identifier) ls)

theorem mem_firsts_iff {l : Listing} {ls : List Listing} :
    l ∈ firsts ls ↔ ls.find? (fun m => m.identifier = l.identifier) = some l := by
  induction ls with
  | nil => simp [firsts]
  | cons m ls ih =>
    rw [firsts_cons, List.mem_cons, List.mem_filter, ih]
    by_cases h : m.identifier = l.identifier
    · simp [h, eq_comm]
    · have hne : l ≠ m := fun hlm => h (congrArg identifier hlm).symm
      simp [h, hne, Ne.symm h]

theorem place_cons_self (l : Listing) (ls : List Listing) : place (l :: ls) l.identifier = 0 := by
  simp [place, List.findIdx_cons]

theorem place_cons_of_ne {l : Listing} {identifier : Text} (h : identifier ≠ l.identifier)
    (ls : List Listing) : place (l :: ls) identifier = place ls identifier + 1 := by
  simp [place, List.findIdx_cons, Ne.symm h]

/-- The first ones stay in order. -/
theorem pairwise_firsts (ls : List Listing) :
    (firsts ls).Pairwise fun l m => place ls l.identifier < place ls m.identifier := by
  induction ls with
  | nil => exact .nil
  | cons k ls ih =>
    have hne : ∀ {m : Listing}, m ∈ (firsts ls).filter (fun m => m.identifier ≠ k.identifier) →
        m.identifier ≠ k.identifier := fun hm => of_decide_eq_true (List.mem_filter.mp hm).2
    rw [firsts_cons, List.pairwise_cons]
    constructor
    · intro m hm
      rw [place_cons_self, place_cons_of_ne (hne hm)]
      omega
    · refine (ih.filter _).imp_of_mem fun {l m} hl hm hlt => ?_
      rw [place_cons_of_ne (hne hl), place_cons_of_ne (hne hm)]
      omega

end Listing

namespace Release

def package (r : Release) : Text := r.user ++ '/' :: r.project

theorem package_prefix_identifier (r : Release) : r.package ++ ['/'] <+: r.identifier :=
  ⟨r.version.text, by simp [package, identifier]⟩

/-- How the key of a release starts tells its user and its project. -/
theorem eq_of_prefix_identifier {l : Listing} {r : Release} (hr : ofListing l = .ok r)
    {user project : Text} (huser : '/' ∉ user) (hproject : '/' ∉ project)
    (h : user ++ '/' :: project ++ ['/'] <+: r.identifier) :
    r.user = user ∧ r.project = project := by
  obtain ⟨rest, hrest⟩ := h
  obtain ⟨-, hruser, hrproject, -⟩ := ofListing_eq_ok_iff.mp hr
  simp only [identifier, List.append_assoc, List.cons_append, List.nil_append] at hrest
  rw [Text.append_cons_inj huser hruser, Text.append_cons_inj hproject hrproject] at hrest
  exact ⟨hrest.1.symm, hrest.2.1.symm⟩

end Release

namespace Index

variable {i : Index}

theorem missing_eq (i : Index) :
    i.missing = (Listing.firsts i.failed).filter fun l => !i.holdsPackage l.identifier :=
  Listing.firsts_filter (fun identifier => !i.holdsPackage identifier) i.failed

theorem mem_missing_iff {l : Listing} :
    l ∈ i.missing ↔ i.failed.find? (fun m => m.identifier = l.identifier) = some l ∧
      i.holdsPackage l.identifier = false := by
  rw [missing_eq, List.mem_filter, Listing.mem_firsts_iff, Bool.not_eq_true']

theorem pairwise_missing (i : Index) : i.missing.Pairwise fun l m =>
    Listing.place i.failed l.identifier < Listing.place i.failed m.identifier := by
  rw [missing_eq]
  exact (Listing.pairwise_firsts i.failed).filter _

theorem nodup_missing (i : Index) : (i.missing.map Listing.identifier).Nodup := by
  rw [List.Nodup, List.pairwise_map]
  refine i.pairwise_missing.imp fun {l m} hlt heq => ?_
  rw [heq] at hlt
  exact Nat.lt_irrefl _ hlt

/-- An identifier that has failed is missing unless a release of the package is held. -/
theorem exists_mem_missing {l : Listing} (hl : l ∈ i.failed)
    (h : i.holdsPackage l.identifier = false) : ∃ m ∈ i.missing, m.identifier = l.identifier := by
  obtain ⟨m, hm⟩ : ∃ m, i.failed.find? (fun k => k.identifier = l.identifier) = some m :=
    Option.isSome_iff_exists.mp (List.find?_isSome.mpr ⟨l, hl, by simp⟩)
  have hid : m.identifier = l.identifier := by simpa using List.find?_some hm
  exact ⟨m, mem_missing_iff.mpr ⟨by rw [hid, hm], by rw [hid, h]⟩, hid⟩

theorem holdsPackage_iff {identifier : Text} :
    i.holdsPackage identifier = true ↔ ∃ key ∈ i.holdings.keys, identifier ++ ['/'] <+: key := by
  simp [holdsPackage, List.any_eq_true]

/-- The held releases are those that listings address, each under its own key. -/
def Addressed (i : Index) : Prop := ∀ key held, i.holdings.get? key = some held →
  held.release.identifier = key ∧ ∃ l, Release.ofListing l = .ok held.release

theorem Addressed.holdsPackage (h : i.Addressed) {key : Text} {held : Holding}
    (hheld : i.holdings.get? key = some held) : i.holdsPackage held.release.package = true := by
  obtain ⟨rfl, -⟩ := h key held hheld
  have hkey : held.release.identifier ∈ i.holdings.keys :=
    TextMap.mem_keys_iff.mpr (Option.isSome_of_eq_some hheld)
  exact holdsPackage_iff.mpr ⟨_, hkey, held.release.package_prefix_identifier⟩

theorem Addressed.exists_held (h : i.Addressed) {user project : Text} (huser : '/' ∉ user)
    (hproject : '/' ∉ project) (hholds : i.holdsPackage (user ++ '/' :: project) = true) :
    ∃ key held, i.holdings.get? key = some held ∧ held.release.user = user ∧
      held.release.project = project := by
  obtain ⟨key, hkey, hprefix⟩ := holdsPackage_iff.mp hholds
  obtain ⟨held, hheld⟩ := Option.isSome_iff_exists.mp (TextMap.mem_keys_iff.mp hkey)
  obtain ⟨rfl, l, hl⟩ := h key held hheld
  exact ⟨_, held, hheld, Release.eq_of_prefix_identifier hl huser hproject hprefix⟩

/-- No release of a missing package is held. -/
theorem Addressed.package_ne (h : i.Addressed) {l : Listing} (hl : l ∈ i.missing) {key : Text}
    {held : Holding} (hheld : i.holdings.get? key = some held) :
    held.release.package ≠ l.identifier := by
  intro hpackage
  obtain ⟨-, hunheld⟩ := mem_missing_iff.mp hl
  rw [← hpackage, h.holdsPackage hheld] at hunheld
  cases hunheld

/-- A package of a user and a project that has failed is missing unless a release of it is held. -/
theorem Addressed.exists_mem_missing (h : i.Addressed) {l : Listing} (hl : l ∈ i.failed)
    {user project : Text} (hid : l.identifier = user ++ '/' :: project) (huser : '/' ∉ user)
    (hproject : '/' ∉ project)
    (hunheld : ∀ key held, i.holdings.get? key = some held →
      ¬(held.release.user = user ∧ held.release.project = project)) :
    ∃ m ∈ i.missing, m.identifier = l.identifier := by
  refine Index.exists_mem_missing hl ?_
  rw [hid, Bool.eq_false_iff]
  intro hholds
  obtain ⟨key, held, hheld, hrelease⟩ := h.exists_held huser hproject hholds
  exact hunheld key held hheld hrelease

end Index

namespace Log

variable {log more : Log}

theorem mem_arrivals_iff {r : Release} {d : Docs} :
    (r, d) ∈ log.arrivals ↔ .docsArrived r d ∈ log := by
  constructor
  · intro h
    obtain ⟨e, he, hdocs⟩ := List.mem_filterMap.mp h
    cases e with
    | docsArrived r' d' =>
      obtain ⟨rfl, rfl⟩ := Prod.mk.inj (Option.some.inj hdocs)
      exact he
    | _ => cases hdocs
  · intro h
    exact List.mem_filterMap.mpr ⟨_, h, rfl⟩

theorem addressed_index
    (h : ∀ r d, .docsArrived r d ∈ log → ∃ l, Release.ofListing l = .ok r) :
    log.index.Addressed := by
  intro key held hheld
  obtain ⟨hkey, -, -⟩ := loads_of_get?_holdings hheld
  rw [get?_holdings] at hheld
  obtain ⟨⟨r, d⟩, hlast, rfl⟩ := Option.map_eq_some_iff.mp hheld
  have harrived := (List.mem_filter.mp (List.mem_of_getLast? hlast)).1
  exact ⟨hkey, h r d (mem_arrivals_iff.mp harrived)⟩

theorem holdsPackage_index_iff {identifier : Text} :
    log.index.holdsPackage identifier = true ↔
      ∃ r d, .docsArrived r d ∈ log ∧ identifier ++ ['/'] <+: r.identifier := by
  simp only [Index.holdsPackage_iff, mem_keys_holdings, Prod.exists, mem_arrivals_iff]
  constructor
  · rintro ⟨key, ⟨r, d, harrived, rfl⟩, hprefix⟩
    exact ⟨r, d, harrived, hprefix⟩
  · rintro ⟨r, d, harrived, hprefix⟩
    exact ⟨_, ⟨r, d, harrived, rfl⟩, hprefix⟩

/-- Once documentation of all that was missing has arrived, and nothing else has failed, nothing is
missing. -/
theorem missing_append_eq_nil (hfailures : more.failures = [])
    (h : ∀ l ∈ log.index.missing, ∃ r d, Release.ofListing l = .ok r ∧ .docsArrived r d ∈ more) :
    (index (log ++ more)).missing = [] := by
  rw [List.eq_nil_iff_forall_not_mem]
  intro l hl
  obtain ⟨hfirst, hunheld⟩ := Index.mem_missing_iff.mp hl
  have hfailed : (index (log ++ more)).failed = log.index.failed := by
    show failures (log ++ more) = log.failures
    rw [failures, List.filterMap_append, ← failures, ← failures, hfailures, List.append_nil]
  have hbefore : log.index.holdsPackage l.identifier = false := by
    rw [Bool.eq_false_iff] at hunheld ⊢
    intro hholds
    obtain ⟨r, d, harrived, hprefix⟩ := holdsPackage_index_iff.mp hholds
    exact hunheld (holdsPackage_index_iff.mpr ⟨r, d, List.mem_append_left _ harrived, hprefix⟩)
  rw [hfailed] at hfirst
  obtain ⟨r, d, hr, harrived⟩ := h l (Index.mem_missing_iff.mpr ⟨hfirst, hbefore⟩)
  have hprefix := r.package_prefix_identifier
  rw [Release.package, ← (Release.ofListing_eq_ok_iff.mp hr).1] at hprefix
  rw [holdsPackage_index_iff.mpr ⟨r, d, List.mem_append_right _ harrived, hprefix⟩] at hunheld
  cases hunheld

end Log

end DocIndex
