import DocIndex.Proofs.Session.Drained
import DocIndex.Proofs.Session.ToolDriven

/-!
What becomes of a catalog when callers may fetch listings again at any time, also before the catalog
is there. A result that comes before the catalog begins the index, and the index is what a session
keeps: the catalog that comes later asks for nothing. Unless that has happened, all updated listings
are fetched.
-/
namespace DocIndex

namespace Log

def askedFrom (s : State) : Log → List Listing
  | [] => []
  | e :: log => s.requested e ++ askedFrom (s.after e) log

/-- The listings that the applied events of a session have asked for. -/
def asked (log : Log) : List Listing := askedFrom .waiting log

theorem askedFrom_append (s : State) (log more : Log) :
    askedFrom s (log ++ more) = askedFrom s log ++ askedFrom (s.afterAll log) more := by
  induction log generalizing s with
  | nil => rfl
  | cons e log ih =>
    rw [List.cons_append, askedFrom, ih, askedFrom, List.append_assoc]
    rfl

theorem asked_append (log more : Log) :
    asked (log ++ more) = log.asked ++ askedFrom log.state more := by
  rw [asked, askedFrom_append, afterAll_waiting]
  rfl

/-- Only the end of the catalog fetch asks for anything. -/
theorem askedFrom_eq_nil (s : State) {log : Log} (h : log.catalogEvents = []) :
    askedFrom s log = [] := by
  induction log generalizing s with
  | nil => rfl
  | cons e log ih =>
    rw [catalogEvents, List.filter_eq_nil_iff, List.forall_mem_cons] at h
    obtain ⟨he, hlog⟩ := h
    rw [askedFrom, ih _ (List.filter_eq_nil_iff.mpr hlog), List.append_nil]
    cases e with
    | catalogArrived c => exact absurd rfl he
    | _ => rfl

/-- The one catalog asks for its updated listings if no result has come before it. -/
theorem asked_eq {before after : Log} {c : Catalog}
    (hbefore : before.catalogEvents = []) (hafter : after.catalogEvents = []) :
    asked (before ++ .catalogArrived c :: after) = if before.hasResult then [] else c.recent := by
  have herrors : before.catalogErrors = [] := by
    rw [catalogErrors_eq, hbefore, List.filterMap_nil]
  rw [asked_append, asked, askedFrom_eq_nil _ hbefore, askedFrom, askedFrom_eq_nil _ hafter,
    requested_state, herrors]
  cases before.hasResult <;> simp [Event.catalog?]

end Log

namespace Session

variable {w : Answers} {allowed : Action → Prop} {s : Session} {log : Log}
  {started : List Listing}

/-- What the applied events have asked for is started, in this order, or about to be. -/
theorem Run.exists_begun (run : Run w allowed s log started) :
    ∃ begun, begun ++ s.stage.asked = log.asked ∧ begun.Sublist started := by
  induction run using Run.induct with
  | start => exact ⟨[], rfl, .slnil⟩
  | @step s _ log _ started _ _ run _ ih _ h =>
    obtain ⟨begun, hasked, hbegun⟩ := ih
    cases h with
    | apply e rest hs hq =>
      rw [hs, Stage.asked, List.append_nil] at hasked
      refine ⟨begun, ?_, by simpa using hbegun⟩
      rw [Log.asked_append, hasked, run.state_eq, Log.askedFrom, Log.askedFrom, List.append_nil]
      rfl
    | count e ls hs => exact ⟨begun, by simpa [hs, Stage.asked] using hasked, by simpa using hbegun⟩
    | begin l ls hs =>
      refine ⟨begun ++ [l], ?_, hbegun.append (.refl [l])⟩
      simpa [hs, Stage.asked] using hasked
    | rest hs => exact ⟨begun, by simpa [hs, Stage.asked] using hasked, by simpa using hbegun⟩
    | launch i l hl =>
      exact ⟨begun, by simpa using hasked, hbegun.trans (List.sublist_append_left _ _)⟩
    | retry a ls ha =>
      exact ⟨begun, by simpa using hasked, hbegun.trans (List.sublist_append_left _ _)⟩
    | _ => exact ⟨begun, by simpa using hasked, by simpa using hbegun⟩

/-- In a drained session all is started that was asked for. -/
theorem Run.asked_sublist (run : Run w allowed s log started) (hd : s.Drained) :
    log.asked.Sublist started := by
  obtain ⟨begun, hasked, hbegun⟩ := run.exists_begun
  rw [hd.stage, Stage.asked, List.append_nil] at hasked
  exact hasked ▸ hbegun

theorem Run.asked_of_drained (run : Run w allowed s log started) (hd : s.Drained) {c : Catalog}
    {before after : Log} (hlog : log = before ++ .catalogArrived c :: after) :
    log.asked = if before.hasResult then [] else c.recent := by
  have hone : log.catalogEvents.length = 1 := by rw [(run.log_of_drained hd).1, List.length_singleton]
  have hcut : log.catalogEvents =
      before.catalogEvents ++ .catalogArrived c :: after.catalogEvents := by
    rw [hlog, Log.catalogEvents_append]
    rfl
  rw [hcut, List.length_append, List.length_cons] at hone
  have hbefore : before.catalogEvents = [] := List.length_eq_zero_iff.mp (by omega)
  have hafter : after.catalogEvents = [] := List.length_eq_zero_iff.mp (by omega)
  rw [hlog, Log.asked_eq hbefore hafter]

/-- The end of a session whose catalog fetch succeeds, whatever is fetched again and when. If no
result was applied before the catalog, a fetch was started for every updated listing. Otherwise the
index had begun, and the catalog has asked for nothing. Every run comes to such an end. -/
theorem Run.catalog_taken (run : Run w (fun _ => True) s log started) {c : Catalog}
    (hc : w.catalog = .ok c) :
    (s.Drained → s.progress.catalog = .loaded ∧ .catalogArrived c ∈ log ∧
      ∀ before after : Log, log = before ++ .catalogArrived c :: after →
        (before.hasResult = false → c.recent.Sublist started ∧
          ∀ l ∈ c.listings, l.identifier ∈ c.updated → l ∈ started) ∧
        (before.hasResult = true → log.asked = [])) ∧
    ∃ t more later, Run w (fun _ => True) t (log ++ more) (started ++ later) ∧ t.Drained := by
  refine ⟨fun hd => ⟨run.catalog_of_drained hd hc, ?_, fun before after hlog => ⟨fun hnone => ?_,
    fun hresult => ?_⟩⟩, run.exists_drained fun _ _ => trivial⟩
  · have harrived : w.catalogEvent ∈ log.catalogEvents := by
      rw [(run.log_of_drained hd).1]
      exact List.mem_singleton_self _
    rw [Answers.catalogEvent, hc] at harrived
    exact (List.mem_filter.mp harrived).1
  · have hasked := run.asked_sublist hd
    rw [run.asked_of_drained hd hlog, hnone] at hasked
    exact ⟨hasked, fun l hl hupdated =>
      hasked.subset (Catalog.mem_recent_iff.mpr ⟨hl, hupdated⟩)⟩
  · rw [run.asked_of_drained hd hlog, hresult]
    rfl

def lateLaunch : List Action :=
  [.announce ⟨"c/d", [⟨1, 0, 0⟩]⟩, .endCatalog, .reduce, .launch 0, .endFetch 0] ++
    List.replicate 9 .reduce ++ List.replicate 4 (.endFetch 0) ++ List.replicate 12 .reduce

theorem catalog_taken_late :
    ∃ s log started,
      follow sampleAnswers lateLaunch (Session.start, [], []) = some (s, log, started) ∧
      s.Drained ∧ s.progress.catalog = .loaded ∧ sampleCatalog.recent.Sublist started ∧
      ⟨"e/f", [⟨2, 0, 0⟩, ⟨1, 0, 0⟩]⟩ ∈ started := by
  obtain ⟨s, log, started, h, hd, run⟩ :=
    exists_drained_run sampleAnswers lateLaunch (fun _ _ => trivial) rfl
  obtain ⟨hloaded, -, htaken⟩ := (run.catalog_taken (c := sampleCatalog) rfl).1 hd
  have hfirst : ∃ after, log = [] ++ .catalogArrived sampleCatalog :: after := by
    have hrun : ∃ after, (follow sampleAnswers lateLaunch (Session.start, [], [])).map
        (fun c => c.2.1) = some (.catalogArrived sampleCatalog :: after) := ⟨_, rfl⟩
    simpa [h] using hrun
  obtain ⟨after, hlog⟩ := hfirst
  obtain ⟨hrecent, hupdated⟩ := (htaken [] after hlog).1 rfl
  exact ⟨s, log, started, h, hd, hloaded, hrecent,
    hupdated _ (by simp [sampleCatalog]) (by simp [sampleCatalog])⟩

def overtakenCatalog : List Action :=
  [.announce ⟨"c/d", [⟨1, 0, 0⟩]⟩, .launch 0, .endFetch 0, .reduce, .reduce, .reduce, .endCatalog,
    .reduce, .reduce, .reduce]

/-- The catalog is counted as loaded, and no updated listing is ever fetched. -/
theorem catalog_overtaken :
    ∃ s log started,
      follow sampleAnswers overtakenCatalog (Session.start, [], []) = some (s, log, started) ∧
      Run sampleAnswers (fun _ => True) s log started ∧ s.Drained ∧
      sampleAnswers.catalog = .ok sampleCatalog ∧ s.progress = ⟨.loaded, 1, 1, 0⟩ ∧
      s.progress.settled = true ∧ sampleCatalog.recent.length = 4 ∧
      ∀ l ∈ sampleCatalog.recent, l ∉ started := by
  obtain ⟨s, log, started, h, hd, run⟩ :=
    exists_drained_run sampleAnswers overtakenCatalog (fun _ _ => trivial) rfl
  have hend : (follow sampleAnswers overtakenCatalog (Session.start, [], [])).map
      (fun c => (c.1.progress, c.2.2)) =
        some (⟨.loaded, 1, 1, 0⟩, [⟨"c/d", [⟨1, 0, 0⟩]⟩]) := rfl
  obtain ⟨hp, rfl⟩ : s.progress = ⟨.loaded, 1, 1, 0⟩ ∧ started = [⟨"c/d", [⟨1, 0, 0⟩]⟩] := by
    simpa [h] using hend
  exact ⟨s, log, _, h, run, hd, rfl, hp, by rw [hp]; rfl, by decide, by decide⟩

end Session

end DocIndex
