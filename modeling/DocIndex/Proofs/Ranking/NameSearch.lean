import DocIndex.Json.Read
import DocIndex.Proofs.Docs.Contents
import DocIndex.Proofs.NameDistance
import DocIndex.Proofs.Ranking.Permuted
import DocIndex.Proofs.Signature.Words
import DocIndex.Proofs.State.Log
import DocIndex.Text.Similarity

/-!
What a package documents is found by its name: from the served documentation through the index to
the front of the ranking.
-/
namespace DocIndex

open Directive

/-- Names whose search compares names: words that start in lower case, and operators without letters
and braces. -/
def SearchedByName (name : Text) : Prop :=
  (∃ c rest, name = c :: rest ∧ c.isLower = true ∧ ∀ d ∈ rest, isWordChar d = true) ∨
    name.head? = some '(' ∧ ∀ c ∈ name, Text.isAlphabetic c = false ∧ c ≠ '\x7b' ∧ c ≠ '\x7d'

/-- The symbols of an operator stand between its parentheses. -/
theorem exists_operator {name : Text} (hname : isIdentifier name = true)
    (hhead : name.head? = some '(') : ∃ c rest, name = '(' :: c :: rest ∧
      isOperatorChar c = true := by
  cases name with
  | nil => cases hhead
  | cons d rest =>
    obtain rfl : d = '(' := by simpa using hhead
    simp only [isIdentifier, Bool.and_eq_true, Bool.not_eq_true', List.all_eq_true] at hname
    obtain ⟨⟨-, hne⟩, hall⟩ := hname
    cases rest with
    | nil => cases hne
    | cons c rest =>
      cases rest with
      | nil => cases hne
      | cons e rest => exact ⟨c, e :: rest, rfl, hall c (by simp)⟩

theorem Query.ofText_of_var {t name : Text} (h : Ty.ofSignature t = .var name) :
    Query.ofText t = .name t := by
  simp [Query.ofText, h, Ty.normalize, Ty.rename, Ty.isVar]

/-- A search for such a name compares names, and there is something to compare. -/
theorem SearchedByName.query {name : Text} (h : SearchedByName name)
    (hname : isIdentifier name = true) :
    Query.ofText name = .name name ∧ nameCore name ≠ [] := by
  rcases h with ⟨c, rest, rfl, hc, hrest⟩ | ⟨hhead, hplain⟩
  · have hblank : Text.isBlank c = false :=
      Text.isBlank_of_isAlpha (Text.isAlpha_of_isLower hc)
    exact ⟨Query.ofText_of_var (Ty.ofSignature_word hc hrest),
      nameCore_ne_nil List.mem_cons_self hblank (by rintro rfl; cases hc) (by rintro rfl; cases hc)⟩
  · obtain ⟨c, rest, rfl, hc⟩ := exists_operator hname hhead
    obtain ⟨halpha, hbrace, -⟩ := hplain c (by simp)
    have hvar : Ty.ofSignature ('(' :: c :: rest) = .var (Text.trim ('(' :: c :: rest)) := by
      cases hread : Ty.ofText ('(' :: c :: rest) with
      | ok t => exact absurd hread (Ty.ofText_operator hc halpha hbrace t)
      | error e => exact Ty.ofSignature_of_error hread
    simp only [isOperatorChar, Bool.not_eq_true', Bool.or_eq_false_iff,
      decide_eq_false_iff_not] at hc
    exact ⟨Query.ofText_of_var hvar, nameCore_ne_nil (by simp) hc.1.1.1 hc.1.2 hc.2⟩

/-- The scores that names can have are ordered, and a perfect match is the best and within the
least penalty. -/
structure Scale.RanksNames (σ : Type) [Scale σ] : Prop where
  orders : Scale.Orders (nameScores σ)
  perfect_le : ∀ x ∈ nameScores σ, Scale.le Scale.perfect x = true

theorem Scale.ranksNames_float : RanksNames Float where
  orders := {
    total := by decide +kernel
    trans := by decide +kernel
    antisymm := by decide +kernel }
  perfect_le := by decide +kernel

/-- A list in which nothing without a property comes before anything with it. -/
theorem exists_append_of_pairwise {α : Type} {P : α → Prop} {xs : List α}
    (h : xs.Pairwise fun a b => P b → P a) :
    ∃ front rest, xs = front ++ rest ∧ (∀ a ∈ front, P a) ∧ ∀ a ∈ rest, ¬ P a := by
  induction xs with
  | nil => exact ⟨[], [], rfl, by simp, by simp⟩
  | cons a xs ih =>
    obtain ⟨ha, hxs⟩ := List.pairwise_cons.mp h
    by_cases hP : P a
    · obtain ⟨front, rest, rfl, hfront, hrest⟩ := ih hxs
      exact ⟨a :: front, rest, rfl, List.forall_mem_cons.mpr ⟨hP, hfront⟩, hrest⟩
    · exact ⟨[], a :: xs, rfl, by simp,
        List.forall_mem_cons.mpr ⟨hP, fun b hb hPb => hP (ha b hb hPb)⟩⟩

theorem Ranking.ofMatches_of_ne_nil {σ : Type} {ms : List (Match σ)} (h : ms ≠ []) :
    ofMatches ms = .found ms := by
  cases ms with
  | nil => exact absurd rfl h
  | cons m ms => rfl

section

variable {σ : Type} [Scale σ] (resembles : Text → Text → Bool)

theorem Query.score_mem_nameScores {query : Text} {values : List IndexedValue} {m : Match σ}
    (hm : m ∈ (Query.name query).hits resembles values) : m.score ∈ nameScores σ := by
  obtain ⟨v, -, rfl⟩ := List.mem_map.mp (List.mem_filter.mp hm).1
  exact nameDistance_mem_nameScores resembles query v.entry.name

/-- Sorted by the scores of names, the perfect matches come first. -/
theorem Match.pairwise_perfect_mergeSort (hnames : Scale.RanksNames σ) {ms : List (Match σ)}
    (hscores : ∀ m ∈ ms, m.score ∈ nameScores σ) :
    (ms.mergeSort Match.le).Pairwise fun m n =>
      n.score = Scale.perfect → m.score = Scale.perfect := by
  have horders : Scale.Orders (ms.map Match.score) :=
    hnames.orders.subset (List.forall_mem_map.mpr hscores)
  refine (List.pairwise_map.mp (pairwise_score_mergeSort horders)).imp_of_mem ?_
  intro m n hm _ hle hn
  have hmem : m.score ∈ nameScores σ :=
    hscores m ((List.mergeSort_perm ms Match.le).mem_iff.mp hm)
  have hperfect : (Scale.perfect : σ) ∈ nameScores σ := by simp [nameScores]
  rw [hn] at hle
  exact hnames.orders.antisymm _ hmem _ hperfect hle (hnames.perfect_le _ hmem)

/-- A search for the name of a value finds the value among the perfect matches, which come before
all other ones. -/
theorem rank_name (hnames : Scale.RanksNames σ) {name : Text}
    (hquery : Query.ofText name = .name name) (hcore : nameCore name ≠ [])
    {values : List IndexedValue} {v : IndexedValue} (hv : v ∈ values)
    (hname : v.entry.name = name) :
    ∃ best rest, rank resembles name values = .found (best ++ rest) ∧
      (∀ m ∈ best, m.score = (Scale.perfect : σ)) ∧ (∀ m ∈ rest, m.score ≠ Scale.perfect) ∧
      ⟨Scale.perfect, v⟩ ∈ best := by
  let hits : List (Match σ) := (Query.name name).hits resembles values
  have hscores : ∀ m ∈ hits, m.score ∈ nameScores σ :=
    fun m hm => Query.score_mem_nameScores resembles hm
  have hhit : (⟨Scale.perfect, v⟩ : Match σ) ∈ hits := by
    have hscore : (Query.name name).score resembles v = (Scale.perfect : σ) := by
      rw [Query.score, hname]
      exact nameDistance_self resembles hcore
    have hlow : Scale.le (Scale.perfect : σ) Scale.low = true :=
      hnames.perfect_le _ (by simp [nameScores])
    exact List.mem_filter.mpr ⟨List.mem_map.mpr ⟨v, hv, by rw [hscore]⟩, hlow⟩
  obtain ⟨best, rest, happend, hbest, hrest⟩ :=
    exists_append_of_pairwise (Match.pairwise_perfect_mergeSort hnames hscores)
  have hmem : (⟨Scale.perfect, v⟩ : Match σ) ∈ best ++ rest := by
    rw [← happend]
    exact (List.mergeSort_perm hits Match.le).mem_iff.mpr hhit
  have hin : (⟨Scale.perfect, v⟩ : Match σ) ∈ best := by
    rcases List.mem_append.mp hmem with h | h
    · exact h
    · exact absurd rfl (hrest _ h)
  have hne : name.isEmpty = false := by
    cases name with
    | nil => exact absurd rfl hcore
    | cons c name => rfl
  refine ⟨best, rest, ?_, hbest, hrest, hin⟩
  have hfound : Ranking.ofMatches (best ++ rest) = .found (best ++ rest) :=
    Ranking.ofMatches_of_ne_nil (List.ne_nil_of_mem hmem)
  rw [rank_eq, hne, hquery, ← hfound, ← happend]
  rfl

end

/-- Unless the catalog failed, all that documentation holds can be found once it has arrived. -/
theorem Log.mem_values_of_arrived {log : Log} (hcatalog : ∀ e, .catalogFailed e ∉ log)
    {r : Release} {d : Docs} (hdocs : .docsArrived r d ∈ log) {v : IndexedValue}
    (hv : v ∈ d.values r.identifier) : v ∈ (State.waiting.afterAll log).values := by
  have herrors : log.catalogErrors = [] := by
    refine List.filterMap_eq_nil_iff.mpr fun e he => ?_
    cases e with
    | catalogFailed e => exact absurd he (hcatalog e)
    | _ => rfl
  have hresult : log.hasResult = true := List.any_eq_true.mpr ⟨_, hdocs, rfl⟩
  have hstate : State.waiting.afterAll log = .indexed log.index := by
    rw [afterAll_waiting, state, herrors, hresult]
    rfl
  have harrival : (r, d) ∈ log.arrivals := List.mem_filterMap.mpr ⟨_, hdocs, rfl⟩
  rw [hstate]
  exact List.mem_flatMap.mpr ⟨(r, d), harrival, hv⟩

/-- Whatever served documentation lists and has an entry for is found by its name, after any events
in which the documentation arrived and the catalog did not fail: the ranking starts with the perfect
matches, one of them is the value with the comment and the type of its entry, and no other match is
perfect. -/
theorem rank_finds_documented {body : Text} {d : Docs}
    (hbody : (Json.read? body).bind Docs.ofJson? = some d) {log : Log} {r : Release}
    (hdocs : .docsArrived r d ∈ log) (hcatalog : ∀ e, .catalogFailed e ∉ log) {m : ModuleDocs}
    (hm : m ∈ d.modules.values) {name : Text} {e : Entry Text}
    (hlisted : name ∈ documentedNames isIdentifier m.comment)
    (hentry : m.entries.get? name = some e) (hname : SearchedByName name)
    (resembles : Text → Text → Bool) :
    ∃ best rest v,
      (rank resembles name (State.waiting.afterAll log).values : Ranking Float) =
        .found (best ++ rest) ∧
      (∀ m ∈ best, m.score = 0.0) ∧ (∀ m ∈ rest, m.score ≠ 0.0) ∧ ⟨0.0, v⟩ ∈ best ∧
      v.package = r.identifier ∧ v.name = ⟨m.name, name⟩ ∧ v.entry.comment = e.comment ∧
      v.entry.signature = Ty.ofSignature e.signature := by
  obtain ⟨key, hkey⟩ := TextMap.mem_values_iff.mp hm
  obtain ⟨j, -, hj⟩ := Option.bind_eq_some_iff.mp hbody
  obtain ⟨sources, -, rfl⟩ := Option.map_eq_some_iff.mp hj
  have hentryName : e.name = name := Docs.name_of_get?_ofSources hkey hentry
  let v := IndexedValue.ofEntry r.identifier m.name name e
  have hvalue : v ∈ (Docs.ofSources sources).values r.identifier :=
    Docs.mem_values_iff.mpr ⟨key, m, hkey,
      ModuleDocs.mem_values_iff.mpr ⟨name, hlisted, e, hentry, rfl⟩⟩
  obtain ⟨hquery, hcore⟩ := hname.query (isName_of_mem_documentedNames hlisted)
  obtain ⟨best, rest, hrank, hbest, hrest, hin⟩ := rank_name resembles Scale.ranksNames_float hquery
    hcore (Log.mem_values_of_arrived hcatalog hdocs hvalue) hentryName
  exact ⟨best, rest, v, hrank, hbest, hrest, hin, rfl, rfl, rfl, rfl⟩

def consBody : Text :=
  "[\x7b\"name\":\"L\",\"comment\":\"\\n@docs (::)\",".toList ++
    "\"binops\":[\x7b\"name\":\"::\",\"type\":\"a -> List a\"\x7d]\x7d]".toList

def consModule : ModuleSource where
  name := "L"
  comment := "\n@docs (::)"
  values := []
  aliases := []
  types := []
  operators := [⟨"::", [], "a -> List a"⟩]

def replacedCons : Log := [
  .docsFailed ⟨"a/b", []⟩,
  .docsArrived ⟨"a", "b", ⟨1, 0, 0⟩⟩ (Docs.ofSources [consModule]),
  .docsArrived ⟨"a", "b", ⟨1, 0, 0⟩⟩ (Docs.ofSources [])]

theorem rank_finds_cons :
    ∃ best rest v,
      (rank Text.resembles "(::)" (State.waiting.afterAll replacedCons).values : Ranking Float) =
        .found (best ++ rest) ∧
      (∀ m ∈ rest, m.score ≠ 0.0) ∧ ⟨0.0, v⟩ ∈ best ∧ v.package = "a/b/1.0.0".toList ∧
      v.name = ⟨"L", "(::)"⟩ := by
  have hread : (Json.read? consBody).bind (Json.list? ModuleSource.ofJson?) =
    some [consModule] := by decide +kernel
  have hbody : (Json.read? consBody).bind Docs.ofJson? = some (Docs.ofSources [consModule]) := by
    obtain ⟨j, hj, hsources⟩ := Option.bind_eq_some_iff.mp hread
    exact Option.bind_eq_some_iff.mpr ⟨j, hj, by rw [Docs.ofJson?, hsources]; rfl⟩
  have hdocs : .docsArrived ⟨"a", "b", ⟨1, 0, 0⟩⟩ (Docs.ofSources [consModule]) ∈ replacedCons := by
    simp [replacedCons]
  have hcatalog : ∀ e, .catalogFailed e ∉ replacedCons := by simp [replacedCons]
  have hmodule : consModule.docs ∈ (Docs.ofSources [consModule]).modules.values :=
    List.mem_singleton.mpr rfl
  have hlisted : "(::)".toList ∈ documentedNames isIdentifier consModule.docs.comment := by
    decide +kernel
  have hentry : consModule.docs.entries.get? "(::)" = some ⟨"(::)", [], "a -> List a"⟩ := by
    decide +kernel
  have hsymbols : (['(', ':', ':', ')'].all fun c =>
    decide (Text.isAlphabetic c = false ∧ c ≠ '\x7b' ∧ c ≠ '\x7d')) = true := by decide +kernel
  have hname : SearchedByName "(::)" :=
    .inr ⟨rfl, fun c hc => of_decide_eq_true (List.all_eq_true.mp hsymbols c hc)⟩
  have hid : Release.identifier ⟨"a", "b", ⟨1, 0, 0⟩⟩ = "a/b/1.0.0" := by decide +kernel
  obtain ⟨best, rest, v, hrank, -, hrest, hin, hpackage, hvalue, -⟩ :=
    rank_finds_documented hbody hdocs hcatalog hmodule hlisted hentry hname Text.resembles
  exact ⟨best, rest, v, hrank, hrest, hin, hpackage.trans hid, hvalue⟩

end DocIndex
