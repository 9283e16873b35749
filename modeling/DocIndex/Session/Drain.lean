import DocIndex.Session.Basic

/-!
Running a session until nothing can happen without an answer from outside: the reducer goes on
first, then announced fetches are started, then fetches that made no request fail.

`work` bounds the number of steps that are left, since every step lowers it.
-/
namespace DocIndex.Session

/-- The next thing that happens without an answer from outside. -/
def tick (s : Session) : Option Session :=
  match s.reduce with
  | some t => some t
  | none =>
    match s.launch 0 with
    | some t => some t
    | none => s.unaddressedFetch?.bind fun i => s.endFetch i none

def eventWork : Event → Nat
  | .catalogArrived c => 3 + 5 * c.listings.length
  | _ => 3

def stageWork : Stage → Nat
  | .idle => 0
  | .counting _ ls => 2 + 5 * ls.length
  | .starting ls => 1 + 5 * ls.length

def queueWork : List Event → Nat
  | [] => 0
  | e :: queue => eventWork e + queueWork queue

@[simp] theorem queueWork_concat (e : Event) : ∀ queue : List Event,
    queueWork (queue ++ [e]) = queueWork queue + eventWork e
  | [] => by simp [queueWork]
  | d :: queue => by simp [queueWork, queueWork_concat e queue, Nat.add_assoc]

/-- A bound on the steps that a session can take on its own. -/
def work (s : Session) : Nat :=
  queueWork s.queue + stageWork s.stage + 5 * s.announced.length
    + 4 * s.fetches.countP fun f => f.request.isNone

def run : Nat → Session → Session
  | 0, s => s
  | n + 1, s =>
    match s.tick with
    | some t => run n t
    | none => s

def drain (s : Session) : Session := run s.work s

theorem work_startFetch (s : Session) (l : Listing) : (s.startFetch l).work ≤ s.work + 4 := by
  unfold startFetch
  split
  · simp [work, List.countP_append]
  · simp [work, List.countP_append]
    omega

theorem requested_length (s : State) (e : Event) :
    2 + 5 * (s.requested e).length < eventWork e := by
  have hf : ∀ c : Catalog, c.recent.length ≤ c.listings.length := fun c =>
    List.length_filter_le _ _
  cases e with
  | catalogArrived c =>
    have := hf c
    cases s <;> simp [State.requested, eventWork] <;> omega
  | _ => simp [State.requested, eventWork]

theorem work_reduce {s t : Session} (h : s.reduce = some t) : t.work < s.work := by
  unfold reduce at h
  split at h
  next hs =>
    split at h
    · simp at h
    next e rest hq =>
      obtain rfl := Option.some.inj h
      have := requested_length s.state e
      simp [work, hs, hq, queueWork, stageWork]
      omega
  next e ls hs =>
    obtain rfl := Option.some.inj h
    simp [work, hs, stageWork]
  next hs =>
    obtain rfl := Option.some.inj h
    simp [work, hs, stageWork]
  next l ls hs =>
    obtain rfl := Option.some.inj h
    have := work_startFetch { s with stage := .starting ls } l
    simp [work, hs, stageWork] at this ⊢
    omega

theorem work_launch {s t : Session} {i : Nat} (h : s.launch i = some t) : t.work < s.work := by
  unfold launch at h
  obtain ⟨l, hl, rfl⟩ := Option.map_eq_some_iff.mp h
  obtain ⟨hi, _⟩ := List.getElem?_eq_some_iff.mp hl
  have := work_startFetch { s with announced := s.announced.eraseIdx i } l
  simp [work, List.length_eraseIdx, hi] at this ⊢
  omega

theorem countP_eraseIdx {α : Type} (p : α → Bool) {xs : List α} {i : Nat} {x : α}
    (h : xs[i]? = some x) : (xs.eraseIdx i).countP p + (if p x then 1 else 0) = xs.countP p := by
  induction xs generalizing i with
  | nil => simp at h
  | cons y ys ih =>
    cases i with
    | zero =>
      obtain rfl : y = x := by simpa using h
      simp [List.countP_cons]
    | succ i =>
      have := ih (i := i) (by simpa using h)
      simp only [List.eraseIdx_cons_succ, List.countP_cons]
      omega

theorem work_endFetch {s t : Session} {i : Nat} (hi : s.unaddressedFetch? = some i)
    (h : s.endFetch i none = some t) : t.work < s.work := by
  unfold endFetch at h
  obtain ⟨f, hf, rfl⟩ := Option.map_eq_some_iff.mp h
  have hp : f.request.isNone = true := by
    obtain ⟨hlt, hp, _⟩ := List.findIdx?_eq_some_iff_getElem.mp hi
    rw [List.getElem?_eq_getElem hlt] at hf
    exact Option.some.inj hf ▸ hp
  have := countP_eraseIdx (fun f : Fetch => f.request.isNone) hf
  simp [work, send, Fetch.event, eventWork, hp] at this ⊢
  omega

theorem work_tick {s t : Session} (h : s.tick = some t) : t.work < s.work := by
  unfold tick at h
  split at h
  next hr => exact work_reduce (Option.some.inj h ▸ hr)
  next =>
    split at h
    next hl => exact work_launch (Option.some.inj h ▸ hl)
    next =>
      obtain ⟨i, hi, he⟩ := Option.bind_eq_some_iff.mp h
      exact work_endFetch hi he

theorem tick_run : ∀ {n : Nat} {s : Session}, s.work ≤ n → (run n s).tick = none
  | 0, s, h => by
    cases ht : s.tick with
    | none => exact ht
    | some t => exact absurd (work_tick ht) (by omega)
  | n + 1, s, h => by
    unfold run
    cases ht : s.tick with
    | none => exact ht
    | some t =>
      have := work_tick ht
      exact tick_run (by omega)

/-- A drained session waits for answers only. -/
theorem tick_drain (s : Session) : s.drain.tick = none := tick_run (Nat.le_refl _)

end DocIndex.Session
