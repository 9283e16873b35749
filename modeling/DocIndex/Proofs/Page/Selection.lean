import DocIndex.Page.Lookup
import DocIndex.Proofs.State.Missing

/-!
Which held release a text selects. An identifier selects its release, and a user and a project
select the only release held of them, whatever the order in which the held releases are gone
through. A text without a slash is taken for a user: it selects the only release held of that user.
-/
namespace DocIndex

namespace Release

/-- What a key starts with up to a slash is a user, or a user and a project. -/
theorem prefix_identifier_iff {l : Listing} {r : Release} (hr : ofListing l = .ok r)
    {package : Text} :
    package ++ ['/'] <+: r.identifier ↔ package = r.user ∨ package = r.package := by
  obtain ⟨-, huser, hproject, -⟩ := ofListing_eq_ok_iff.mp hr
  have hidentifier : r.identifier = r.user ++ '/' :: (r.project ++ '/' :: r.version.text) := by
    simp [identifier]
  have hversion : ∀ q, ¬ q ++ ['/'] <+: r.version.text := fun q hstart =>
    r.version.slash_not_mem_text (hstart.subset List.mem_concat_self)
  rw [hidentifier, Text.append_singleton_prefix_append_cons_iff huser]
  simp only [Text.append_singleton_prefix_append_cons_iff hproject, hversion, and_false,
    exists_false, or_false, exists_eq_right, Release.package]

/-- A key has two slashes, so it is neither a user nor a user with a project. -/
theorem count_slash_identifier {l : Listing} {r : Release} (hr : ofListing l = .ok r) :
    r.identifier.count '/' = 2 := by
  obtain ⟨-, huser, hproject, -⟩ := ofListing_eq_ok_iff.mp hr
  have hversion := r.version.slash_not_mem_text
  simp [identifier, List.count_append, List.count_eq_zero_of_not_mem, huser, hproject, hversion]

theorem count_slash_package {l : Listing} {r : Release} (hr : ofListing l = .ok r) :
    r.package.count '/' = 1 := by
  obtain ⟨-, huser, hproject, -⟩ := ofListing_eq_ok_iff.mp hr
  simp [package, List.count_append, List.count_eq_zero_of_not_mem, huser, hproject]

end Release

namespace Index

/-- The held release that a text asks for, looked for among held releases in some order. -/
def findAmong? (entries : List (Text × Holding)) (package : Text) : Option (Text × Holding) :=
  match entries.find? fun e => e.1 = package with
  | some e => some e
  | none =>
    match entries.filter fun e => (package ++ ['/']).isPrefixOf e.1 with
    | [e] => some e
    | _ => none

variable {i : Index} {entries : List (Text × Holding)} {e : Text × Holding} {package id : Text}
  {held : Holding}

/-- The search finds the entry with the key, or else the only one whose key goes on from it. -/
theorem findAmong?_eq_some_iff (hkeys : (entries.map Prod.fst).Nodup) :
    findAmong? entries package = some e ↔
      e ∈ entries ∧ (e.1 = package ∨ (∀ f ∈ entries, f.1 ≠ package) ∧
        package ++ ['/'] <+: e.1 ∧ ∀ f ∈ entries, package ++ ['/'] <+: f.1 → f = e) := by
  unfold findAmong?
  split
  next f hfind =>
    have hf : f ∈ entries := List.mem_of_find?_eq_some hfind
    have hkey : f.1 = package := by simpa using List.find?_some hfind
    rw [Option.some.injEq]
    constructor
    · rintro rfl
      exact ⟨hf, .inl hkey⟩
    · rintro ⟨he, hkey' | ⟨hnone, -⟩⟩
      · exact List.inj_on_of_nodup_map hkeys hf he (hkey.trans hkey'.symm)
      · exact absurd hkey (hnone f hf)
  next hfind =>
    have hnone : ∀ f ∈ entries, f.1 ≠ package := by simpa using hfind
    have hsingle : ∀ l : List (Text × Holding),
        (match l with | [f] => some f | _ => none) = some e ↔ l = [e] := by
      rintro (_ | ⟨f, _ | ⟨g, l⟩⟩) <;> simp
    rw [hsingle, TextMap.filter_eq_singleton_iff hkeys.of_map]
    simp only [List.isPrefixOf_iff_prefix]
    constructor
    · rintro ⟨he, hstart, honly⟩
      exact ⟨he, .inr ⟨hnone, hstart, honly⟩⟩
    · rintro ⟨he, hkey | ⟨-, hstart, honly⟩⟩
      · exact absurd hkey (hnone e he)
      · exact ⟨he, hstart, honly⟩

/-- The order in which the held releases are gone through does not matter. -/
theorem findAmong?_perm {others : List (Text × Holding)} (hperm : others.Perm entries)
    (hkeys : (entries.map Prod.fst).Nodup) :
    findAmong? others package = findAmong? entries package := by
  have hothers : (others.map Prod.fst).Nodup := (hperm.map Prod.fst).nodup_iff.mpr hkeys
  refine Option.ext fun e => ?_
  rw [findAmong?_eq_some_iff hothers, findAmong?_eq_some_iff hkeys]
  simp only [hperm.mem_iff]

theorem findHolding?_eq_findAmong? (i : Index) (package : Text) :
    i.findHolding? package = findAmong? i.holdings.entries package := by
  unfold findHolding? findAmong?
  rw [TextMap.get?, TextMap.find_eq_find?]
  cases hfind : i.holdings.entries.find? fun e => e.1 = package with
  | none => rfl
  | some e =>
    have hkey : e.1 = package := by simpa using List.find?_some hfind
    exact congrArg some (Prod.ext hkey.symm rfl)

/-- Under no other key a release is held that satisfies `p`. -/
def OnlyAt (i : Index) (p : Release → Prop) (id : Text) : Prop :=
  ∀ key held, i.holdings.get? key = some held → p held.release → key = id

/-- A text that is no key selects what goes on from it, if only one key does. -/
theorem findHolding?_eq_some_iff :
    i.findHolding? package = some (id, held) ↔
      i.holdings.get? id = some held ∧ (id = package ∨ i.holdings.get? package = none ∧
        package ++ ['/'] <+: id ∧
        ∀ key other, i.holdings.get? key = some other → package ++ ['/'] <+: key → key = id) := by
  rw [findHolding?_eq_findAmong?, findAmong?_eq_some_iff i.holdings.nodup_keys,
    TextMap.get?_eq_some_iff]
  refine and_congr_right fun hheld => or_congr_right (and_congr ?_ (and_congr_right fun _ => ?_))
  · rw [Option.eq_none_iff_forall_ne_some]
    simp only [ne_eq, TextMap.get?_eq_some_iff, Prod.forall]
    exact ⟨fun h other hother => h package other hother rfl,
      fun h key other hother hkey => h other (hkey ▸ hother)⟩
  · simp only [TextMap.get?_eq_some_iff, Prod.forall, Prod.mk.injEq]
    refine ⟨fun h key other hother hstart => (h key other hother hstart).1,
      fun h key other hother hstart => ?_⟩
    obtain rfl := h key other hother hstart
    rw [← TextMap.get?_eq_some_iff] at hheld hother
    exact ⟨rfl, Option.some.inj (hother.symm.trans hheld)⟩

/-- No key is a user or a user with a project. -/
theorem Addressed.get?_eq_none (h : i.Addressed) (hcount : package.count '/' ≤ 1) :
    i.holdings.get? package = none := by
  rw [Option.eq_none_iff_forall_ne_some]
  intro held hheld
  obtain ⟨rfl, l, hl⟩ := h package held hheld
  rw [Release.count_slash_identifier hl] at hcount
  omega

/-- A text with a slash that is no key selects by user and project. -/
theorem Addressed.findHolding?_iff_of_slash (h : i.Addressed) (hslash : '/' ∈ package) :
    i.findHolding? package = some (id, held) ↔
      i.holdings.get? id = some held ∧ (package = held.release.identifier ∨
        package = held.release.package ∧ i.OnlyAt (fun r =>
          r.user = held.release.user ∧ r.project = held.release.project) id) := by
  rw [findHolding?_eq_some_iff]
  refine and_congr_right fun hheld => ?_
  obtain ⟨rfl, l, hl⟩ := h id held hheld
  obtain ⟨-, huser, hproject, -⟩ := Release.ofListing_eq_ok_iff.mp hl
  refine or_congr eq_comm ?_
  rw [Release.prefix_identifier_iff hl]
  constructor
  · rintro ⟨-, rfl | rfl, honly⟩
    · exact absurd hslash huser
    · refine ⟨rfl, fun key other hother hsame => honly key other hother ?_⟩
      obtain ⟨rfl, -⟩ := h key other hother
      have hpackage : other.release.package = held.release.package := by
        rw [Release.package, Release.package, hsame.1, hsame.2]
      exact hpackage ▸ other.release.package_prefix_identifier
  · rintro ⟨rfl, honly⟩
    refine ⟨h.get?_eq_none (Release.count_slash_package hl).le, .inr rfl,
      fun key other hother hstart => honly key other hother ?_⟩
    obtain ⟨rfl, m, hm⟩ := h key other hother
    exact Release.eq_of_prefix_identifier hm huser hproject hstart

/-- A text without a slash selects by user. -/
theorem Addressed.findHolding?_iff_of_not_slash (h : i.Addressed) (hslash : '/' ∉ package) :
    i.findHolding? package = some (id, held) ↔
      i.holdings.get? id = some held ∧ package = held.release.user ∧
        i.OnlyAt (fun r => r.user = held.release.user) id := by
  have hcount : package.count '/' ≤ 1 := by
    rw [List.count_eq_zero_of_not_mem hslash]
    omega
  have hpackage : ∀ r : Release, package ≠ r.package := by
    rintro r rfl
    exact hslash (by simp [Release.package])
  rw [findHolding?_eq_some_iff, h.get?_eq_none hcount]
  refine and_congr_right fun hheld => ?_
  obtain ⟨rfl, l, hl⟩ := h id held hheld
  have hid : held.release.identifier ≠ package := by
    rintro rfl
    rw [Release.count_slash_identifier hl] at hcount
    omega
  rw [Release.prefix_identifier_iff hl]
  constructor
  · rintro (hkey | ⟨-, rfl | hsame, honly⟩)
    · exact absurd hkey hid
    · refine ⟨rfl, fun key other hother hsame => honly key other hother ?_⟩
      obtain ⟨rfl, m, hm⟩ := h key other hother
      exact (Release.prefix_identifier_iff hm).mpr (.inl hsame.symm)
    · exact absurd hsame (hpackage _)
  · rintro ⟨rfl, honly⟩
    refine .inr ⟨rfl, .inl rfl, fun key other hother hstart => honly key other hother ?_⟩
    obtain ⟨rfl, m, hm⟩ := h key other hother
    exact (((Release.prefix_identifier_iff hm).mp hstart).resolve_right (hpackage _)).symm

/-- What a text selects among held releases that listings address, each under its own key. A text
with a slash selects a release as documented: by its user, project and version, or by its user and
project if no other release of them is held. A text without one selects the release of that user, if
no other release of the user is held. The order of the held releases does not matter. -/
theorem Addressed.findHolding?_selects (h : i.Addressed) (package : Text) :
    (∀ entries, entries.Perm i.holdings.entries →
      findAmong? entries package = i.findHolding? package) ∧
    ('/' ∈ package → ∀ id held, i.findHolding? package = some (id, held) ↔
      i.holdings.get? id = some held ∧ (package = held.release.identifier ∨
        package = held.release.package ∧ i.OnlyAt (fun r =>
          r.user = held.release.user ∧ r.project = held.release.project) id)) ∧
    ('/' ∉ package → ∀ id held, i.findHolding? package = some (id, held) ↔
      i.holdings.get? id = some held ∧ package = held.release.user ∧
        i.OnlyAt (fun r => r.user = held.release.user) id) := by
  refine ⟨fun entries hperm => ?_, fun hslash id held => h.findHolding?_iff_of_slash hslash,
    fun hslash id held => h.findHolding?_iff_of_not_slash hslash⟩
  rw [findHolding?_eq_findAmong?]
  exact findAmong?_perm hperm i.holdings.nodup_keys

def twoReleases : Log := [
  .docsArrived ⟨"mdgriffith", "elm-ui", ⟨1, 1, 8⟩⟩ (Docs.ofModules []),
  .docsArrived ⟨"elm", "json", ⟨1, 1, 3⟩⟩ (Docs.ofModules [])]

def jsonHolding : Holding := .of ⟨"elm", "json", ⟨1, 1, 3⟩⟩ (Docs.ofModules [])

def elmUiHolding : Holding := .of ⟨"mdgriffith", "elm-ui", ⟨1, 1, 8⟩⟩ (Docs.ofModules [])

theorem addressed_twoReleases : twoReleases.index.Addressed := by
  refine Log.addressed_index fun r d harrived => ?_
  simp only [twoReleases, List.mem_cons, List.not_mem_nil, or_false, Event.docsArrived.injEq]
    at harrived
  rcases harrived with ⟨rfl, -⟩ | ⟨rfl, -⟩
  · exact ⟨⟨"mdgriffith/elm-ui", [⟨1, 1, 8⟩]⟩, by decide +kernel⟩
  · exact ⟨⟨"elm/json", [⟨1, 1, 3⟩]⟩, by decide +kernel⟩

theorem entries_twoReleases : twoReleases.index.holdings.entries =
    [("elm/json/1.1.3".toList, jsonHolding), ("mdgriffith/elm-ui/1.1.8".toList, elmUiHolding)] :=
  rfl

theorem onlyAt_twoReleases {p : Release → Prop} (h : ¬ p elmUiHolding.release) :
    twoReleases.index.OnlyAt p "elm/json/1.1.3" := by
  intro key held hheld hp
  rw [TextMap.get?_eq_some_iff, entries_twoReleases] at hheld
  simp only [List.mem_cons, List.not_mem_nil, or_false, Prod.mk.injEq] at hheld
  rcases hheld with ⟨rfl, -⟩ | ⟨-, rfl⟩
  · rfl
  · exact absurd hp h

/-- The release of a user and a project is selected in either order of the held releases. -/
theorem findHolding?_selects_json :
    twoReleases.index.Addressed ∧ '/' ∈ "elm/json".toList ∧
    findAmong? twoReleases.index.holdings.entries.reverse "elm/json" =
      twoReleases.index.findHolding? "elm/json" ∧
    twoReleases.index.findHolding? "elm/json" = some ("elm/json/1.1.3".toList, jsonHolding) := by
  have hslash : '/' ∈ "elm/json".toList := by decide
  have hheld : twoReleases.index.holdings.get? "elm/json/1.1.3" = some jsonHolding := rfl
  have honly : twoReleases.index.OnlyAt (fun r =>
      r.user = jsonHolding.release.user ∧ r.project = jsonHolding.release.project)
      "elm/json/1.1.3" := onlyAt_twoReleases (by decide)
  obtain ⟨horder, hselect, -⟩ := addressed_twoReleases.findHolding?_selects "elm/json"
  exact ⟨addressed_twoReleases, hslash, horder _ (List.reverse_perm _),
    (hselect hslash _ _).mpr ⟨hheld, .inr ⟨rfl, honly⟩⟩⟩

/-- A user alone selects a release, though the text is neither its identifier nor its package. -/
theorem findHolding?_user :
    twoReleases.index.Addressed ∧
    twoReleases.index.findHolding? "elm" = some ("elm/json/1.1.3".toList, jsonHolding) ∧
    jsonHolding.release.identifier ≠ "elm" ∧ jsonHolding.release.package ≠ "elm" :=
  ⟨addressed_twoReleases, rfl, by decide +kernel, by decide +kernel⟩

end Index

end DocIndex
