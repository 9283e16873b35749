import DocIndex.Page.Search
import DocIndex.Proofs.Ranking.StableOrder
import DocIndex.Proofs.State.Coherence
import DocIndex.Text.Similarity

/-!
What a search shows of its ranking: the first matches up to the limit, each in a numbered block. As
the values of an index belong to held releases, every block has its link.
-/
namespace DocIndex.Page

variable {σ : Type} [Scale σ] (base : Text)

def linkedBlock (r : Release) (number : Nat) (m : Match σ) : Text :=
  Text.ofNat number ++ ". `".toList ++ m.value.name.dotted ++ "` : ".toList ++
    m.value.entry.signature.text ++ "\n   ".toList ++
  m.value.package ++ " (score ".toList ++ scoreText m.score ++ ")\n".toList ++
  ("   ".toList ++ r.valueUrl base m.value.name ++ ['\n']) ++
  (match Text.firstFullLine m.value.entry.comment with
    | some line => "   ".toList ++ line ++ ['\n']
    | none => []) ++ ['\n']

section

variable (holdings : TextMap Holding)

theorem matchBlock_of_get? {holdings : TextMap Holding} {m : Match σ} {h : Holding}
    (hheld : holdings.get? m.value.package = some h) (number : Nat) :
    matchBlock base holdings number m = linkedBlock base h.release number m := by
  rw [matchBlock, linkLine, hheld]
  rfl

theorem length_matchBlocks (number : Nat) (ms : List (Match σ)) :
    (matchBlocks base holdings number ms).length = ms.length := by
  induction ms generalizing number with
  | nil => rfl
  | cons m ms ih => rw [matchBlocks, List.length_cons, ih, List.length_cons]

/-- The blocks are numbered one after the other. -/
theorem getElem?_matchBlocks (number : Nat) (ms : List (Match σ)) (k : Nat) :
    (matchBlocks base holdings number ms)[k]? =
      ms[k]?.map (matchBlock base holdings (number + k)) := by
  induction ms generalizing number k with
  | nil => rfl
  | cons m ms ih =>
    cases k with
    | zero => rfl
    | succ k =>
      rw [matchBlocks, List.getElem?_cons_succ, ih, List.getElem?_cons_succ, Nat.succ_add_eq_add_succ]

theorem matchBlocks_take (number limit : Nat) (ms : List (Match σ)) :
    matchBlocks base holdings number (ms.take limit) =
      (matchBlocks base holdings number ms).take limit := by
  induction ms generalizing number limit with
  | nil => simp [matchBlocks]
  | cons m ms ih =>
    cases limit with
    | zero => rfl
    | succ limit => rw [List.take_succ_cons, matchBlocks, matchBlocks, List.take_succ_cons, ih]

end

def shownBlocks (i : Index) (matched : List (Match σ)) (limit : Nat) : List Text :=
  matchBlocks base i.holdings 1 (matched.take limit)

def moreLine (count : Nat) : Text :=
  "... ".toList ++ Text.ofNat count ++ " more. Raise `limit` to see them.\n".toList

variable {base} {resembles : Text → Text → Bool} {query : Text} {i : Index}
  {matched : List (Match σ)}

theorem length_shownBlocks (limit : Nat) :
    (shownBlocks base i matched limit).length = min limit matched.length := by
  rw [shownBlocks, length_matchBlocks, List.length_take]

theorem shownBlocks_prefix {limit more : Nat} (h : limit ≤ more) :
    shownBlocks base i matched limit <+: shownBlocks base i matched more := by
  rw [shownBlocks, shownBlocks, matchBlocks_take, matchBlocks_take]
  exact List.take_prefix_take_left h

theorem found_eq (limit : Nat) (p : Progress) :
    found query matched limit (.indexed i) base p =
      "Search results for '".toList ++ query ++ "' (".toList ++
        Text.ofNat (min limit matched.length) ++ " of ".toList ++ Text.ofNat matched.length ++
        " matches):\n\n".toList ++ (shownBlocks base i matched limit).flatten ++
        (if limit < matched.length then moreLine (matched.length - limit) else []) ++
        pendingNote p := by
  have hmore : (if min limit matched.length < matched.length then
      moreLine (matched.length - min limit matched.length) else []) =
        if limit < matched.length then moreLine (matched.length - limit) else [] := by
    by_cases h : limit < matched.length
    · rw [Nat.min_eq_left h.le]
    · have hall : ¬ min limit matched.length < matched.length := by omega
      rw [if_neg h, if_neg hall]
  have hshown : min matched.length limit = min limit matched.length := Nat.min_comm _ _
  have hheld : ((State.indexed i).index?.map Index.holdings).getD TextMap.empty = i.holdings := rfl
  rw [← hmore]
  unfold found shownBlocks moreLine
  rw [hheld, hshown]

theorem search_of_found (hrank : (rank resembles query i.values : Ranking σ) = .found matched)
    (limit : Nat) (p : Progress) : search σ resembles query limit base p (.indexed i) =
      .ok (found query matched limit (.indexed i) base p) := by
  have hvalues : (State.indexed i).values = i.values := rfl
  rw [search, hvalues, hrank]
  nofun

/-- The block at a place shows the match that is ranked there, and its release is held. -/
theorem getElem?_shownBlocks {log : Log} (hstate : State.waiting.afterAll log = .indexed i)
    (hrank : (rank resembles query i.values : Ranking σ) = .found matched) {limit k : ℕ}
    {m : Match σ} (hk : k < limit) (hm : matched[k]? = some m) :
    ∃ h, i.holdings.get? m.value.package = some h ∧ h.release.identifier = m.value.package ∧
      (shownBlocks base i matched limit)[k]? = some (linkedBlock base h.release (k + 1) m) := by
  have hmem : m ∈ (rank resembles query i.values : Ranking σ).toList := by
    rw [hrank]
    exact List.mem_of_getElem? hm
  obtain ⟨h, hheld, hid⟩ := Log.exists_held_of_state hstate ((mem_rank_iff resembles).mp hmem).2.1
  refine ⟨h, hheld, hid, ?_⟩
  rw [shownBlocks, getElem?_matchBlocks, List.getElem?_take_of_lt hk, hm, Option.map_some,
    matchBlock_of_get? base hheld, Nat.add_comm]

/-- What a search shows of its matches: as many blocks as the limit allows, after their count and the
count of all matches, and a line that tells how many are left out if there are any. The block at a
place has the number of the place and shows the match that is ranked there, with the link into the
documentation of its release, which is held. A higher limit only adds blocks. -/
theorem search_shows {log : Log} (hstate : State.waiting.afterAll log = .indexed i)
    (hrank : (rank resembles query i.values : Ranking σ) = .found matched) (base : Text)
    (p : Progress) (limit : Nat) :
    search σ resembles query limit base p (.indexed i) =
      .ok ("Search results for '".toList ++ query ++ "' (".toList ++
        Text.ofNat (min limit matched.length) ++ " of ".toList ++ Text.ofNat matched.length ++
        " matches):\n\n".toList ++ (shownBlocks base i matched limit).flatten ++
        (if limit < matched.length then moreLine (matched.length - limit) else []) ++
        pendingNote p) ∧
    (shownBlocks base i matched limit).length = min limit matched.length ∧
    (∀ k m, k < limit → matched[k]? = some m → ∃ h, i.holdings.get? m.value.package = some h ∧
      h.release.identifier = m.value.package ∧
      (shownBlocks base i matched limit)[k]? = some (linkedBlock base h.release (k + 1) m)) ∧
    ∀ more, limit ≤ more → shownBlocks base i matched limit <+: shownBlocks base i matched more := by
  refine ⟨?_, length_shownBlocks limit, fun k m => getElem?_shownBlocks hstate hrank,
    fun more => shownBlocks_prefix⟩
  rw [search_of_found hrank, found_eq]

/-- Two of three matches are shown, the second of them with the link into its own release. -/
theorem search_shows_two :
    ∃ (matched : List (Match Float)) (m : Match Float) (h : Holding),
      rank Text.resembles "x" Log.reloads.index.values = .found matched ∧
      search Float Text.resembles "x" 2 "https://pkg.example" ⟨.loaded, 4, 3, 1⟩
        (.indexed Log.reloads.index) =
          .ok ("Search results for 'x' (2 of 3 matches):\n\n".toList ++
            (shownBlocks "https://pkg.example" Log.reloads.index matched 2).flatten ++
            "... 1 more. Raise `limit` to see them.\n".toList) ∧
      shownBlocks "https://pkg.example" Log.reloads.index matched 2 <+:
        shownBlocks "https://pkg.example" Log.reloads.index matched 5 ∧
      matched[1]? = some m ∧ h.release.identifier = m.value.package ∧
      (shownBlocks "https://pkg.example" Log.reloads.index matched 2)[1]? =
        some (linkedBlock "https://pkg.example" h.release 2 m) := by
  have hstate : State.waiting.afterAll Log.reloads = .indexed Log.reloads.index :=
    (Log.afterAll_waiting Log.reloads).trans rfl
  have hsize : (rank Text.resembles "x" Log.reloads.index.values : Ranking Float).size = 3 := by
    rw [size_rank Text.resembles (by decide)]
    decide +kernel
  cases hrank : (rank Text.resembles "x" Log.reloads.index.values : Ranking Float) with
  | introduction =>
    rw [hrank] at hsize
    cases hsize
  | nothing =>
    rw [hrank] at hsize
    cases hsize
  | found matched =>
    rw [hrank] at hsize
    have hlength : matched.length = 3 := hsize
    obtain ⟨hanswer, -, hblocks, hmore⟩ :=
      search_shows hstate hrank "https://pkg.example" ⟨.loaded, 4, 3, 1⟩ 2
    obtain ⟨m, hm⟩ : ∃ m, matched[1]? = some m :=
      ⟨_, List.getElem?_eq_getElem (by omega)⟩
    obtain ⟨h, -, hid, hblock⟩ := hblocks 1 m (by decide) hm
    refine ⟨matched, m, h, rfl, hanswer.trans ?_, hmore 5 (by decide), hm, hid, hblock⟩
    have hnote : pendingNote ⟨.loaded, 4, 3, 1⟩ = [] := by decide +kernel
    rw [hlength, hnote, List.append_nil]
    rfl

/-- What the body of an answer says of a ranking over an index: that the query is empty, that there
are no matches, or how many there are, with a block for each of the first ones. Each block shows the
match that is ranked at its place, with the link into a held release. -/
inductive Shows (query base : Text) (limit : ℕ) (i : Index) : Ranking σ → Text → Prop where
  | introduction {body : Text}
      (starts : "Search by value name or by type signature.".toList <+: body)
      (counts : Text.ofNat i.holdings.size ++ " packages loaded".toList <:+ body) :
      Shows query base limit i .introduction body
  | nothing {body : Text}
      (starts : "No results found for '".toList ++ query ++ "'.".toList <+: body) :
      Shows query base limit i .nothing body
  | found {matched : List (Match σ)} {blocks : List Text}
      (length_eq : blocks.length = min limit matched.length)
      (linked : ∀ k m, k < limit → matched[k]? = some m →
        ∃ h, i.holdings.get? m.value.package = some h ∧
          h.release.identifier = m.value.package ∧
          blocks[k]? = some (linkedBlock base h.release (k + 1) m)) :
      Shows query base limit i (.found matched)
        ("Search results for '".toList ++ query ++ "' (".toList ++
          Text.ofNat (min limit matched.length) ++ " of ".toList ++ Text.ofNat matched.length ++
          " matches):\n\n".toList ++ blocks.flatten ++
          (if limit < matched.length then moreLine (matched.length - limit) else []))

/-- Only an index has matches. -/
theorem exists_index_of_found {s : State}
    (hrank : (rank resembles query s.values : Ranking σ) = .found matched) :
    ∃ i, s = .indexed i := by
  have hnone : (rank resembles query [] : Ranking σ) ≠ .found matched := by
    rw [rank_eq]
    split
    · nofun
    · simp [Query.hits, Ranking.ofMatches]
  cases s with
  | indexed i => exact ⟨i, rfl⟩
  | waiting => exact absurd hrank hnone
  | unavailable e => exact absurd hrank hnone
  | listed updated => exact absurd hrank hnone

theorem exists_shows_introduction (query base : Text) (limit : ℕ) (s : State) (p : Progress) :
    ∃ body, introduction s p = body ++ pendingNote p ∧
      Shows query base limit s.contents (.introduction : Ranking σ) body := by
  have hsize : (s.index?.map fun i => i.holdings.size).getD 0 = s.contents.holdings.size := by
    cases s <;> rfl
  have hstart : "Search by value name or by type signature.".toList <+:
      "Search by value name or by type signature.\n\nExamples:\n".toList := by decide +kernel
  unfold introduction
  rw [hsize]
  refine ⟨_, rfl, .introduction ?_ ?_⟩
  · simp only [List.append_assoc]
    exact hstart.trans (List.prefix_append _ _)
  · rw [← List.singleton_append, ← List.append_assoc, List.append_assoc _ (Text.ofNat _)]
    exact List.suffix_append _ _

theorem exists_shows_nothing (query base : Text) (limit : ℕ) (i : Index) (p : Progress) :
    ∃ body, nothingFound query p = body ++ pendingNote p ∧
      Shows query base limit i (.nothing : Ranking σ) body := by
  have hdot : "'.".toList <+: "'.\n\nSearch tips:\n".toList := by decide +kernel
  unfold nothingFound
  refine ⟨_, rfl, .nothing ?_⟩
  simp only [List.append_assoc]
  refine (List.prefix_append_right_inj _).mpr ((List.prefix_append_right_inj _).mpr ?_)
  exact hdot.trans (List.prefix_append _ _)

/-- An answer shows the ranking of what the state holds, and tells of open fetches after that. -/
theorem exists_shows {log : Log} {s : State} (hstate : State.waiting.afterAll log = s)
    {limit : ℕ} {p : Progress} {answer : Text}
    (h : search σ resembles query limit base p s = .ok answer) :
    (∀ e, s ≠ .unavailable e) ∧ ∃ body, answer = body ++ pendingNote p ∧
      Shows query base limit s.contents (rank resembles query s.values : Ranking σ) body := by
  unfold search at h
  split at h
  next => cases h
  next hs =>
    refine ⟨hs, ?_⟩
    split at h <;> obtain rfl := Except.ok.inj h
    next hrank =>
      rw [hrank]
      exact exists_shows_introduction query base limit s p
    next hrank =>
      rw [hrank]
      exact exists_shows_nothing query base limit s.contents p
    next matched hrank =>
      obtain ⟨i, rfl⟩ := exists_index_of_found hrank
      rw [hrank, found_eq]
      exact ⟨_, rfl, .found (length_shownBlocks limit) fun k m =>
        getElem?_shownBlocks hstate hrank⟩

/-- The note on open fetches is empty once there are none. -/
theorem pendingNote_eq_nil_iff {p : Progress} :
    pendingNote p = [] ↔ p.catalog ≠ .pending ∧ p.settled = true := by
  unfold pendingNote
  split
  next h => simp [h]
  next h =>
    split
    next hsettled => simp [h, hsettled]
    next hopen => simp [h, hopen]

theorem pendingNote_of_ne_nil {p : Progress} (h : pendingNote p ≠ []) :
    "\n\nStill loading".toList <+: pendingNote p := by
  unfold pendingNote at h ⊢
  split
  next => exact ⟨_, rfl⟩
  next hcatalog =>
    rw [if_neg hcatalog] at h
    split
    next hsettled =>
      rw [if_pos hsettled] at h
      exact absurd rfl h
    next => simp only [List.append_assoc]; exact ⟨_, rfl⟩

end DocIndex.Page
