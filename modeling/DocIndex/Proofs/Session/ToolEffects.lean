import DocIndex.Proofs.Session.Quiescence
import DocIndex.Tool.Info

/-!
What a tool call does to a session, in whatever state it finds it. A call may come between any two
steps of the reducer, so its effect is read off where the reducer has nothing more to do, next to
where it would be without the call.
-/
namespace DocIndex

theorem Tool.name_injective : Function.Injective Tool.name := by
  intro tool tool' h
  cases tool <;> cases tool' <;> first | rfl | exact absurd h (by decide)

theorem ToolInfo.named?_name (t : Tool) : named? t.name = some t.info := by
  cases t <;> rfl

def ToolCall.tool : ToolCall → Tool
  | .search _ _ => .search
  | .status _ => .status
  | .lookup _ _ => .lookup
  | .retry _ => .retry

/-- Arguments are read for the tool that is asked for. -/
theorem ToolCall.tool_of_ofArguments? {tool : Tool} {j : Json} {c : ToolCall}
    (h : ofArguments? tool j = some c) : c.tool = tool := by
  unfold ofArguments? at h
  simp only [Option.bind_eq_bind, Option.bind_eq_some_iff] at h
  obtain ⟨values, -, h⟩ := h
  split at h
  next =>
    simp only [Option.bind_eq_some_iff] at h
    obtain ⟨query, -, limit, -, h⟩ := h
    obtain rfl := Option.some.inj h
    rfl
  next =>
    split at h
    next =>
      obtain rfl := Option.some.inj h
      rfl
    next =>
      obtain ⟨verbose, -, h⟩ := Option.bind_eq_some_iff.mp h
      obtain rfl := Option.some.inj h
      rfl
  next =>
    simp only [Option.bind_eq_some_iff] at h
    obtain ⟨package, -, name, -, h⟩ := h
    obtain rfl := Option.some.inj h
    rfl
  next =>
    obtain ⟨package, -, h⟩ := Option.bind_eq_some_iff.mp h
    obtain rfl := Option.some.inj h
    rfl
  next => cases h

/-- Only calls with all arguments that the listed schema requires are read. -/
theorem ToolCall.ne_none_of_required {tool : Tool} {j : Json} {c : ToolCall}
    (h : ofArguments? tool j = some c) :
    ∃ values, Json.record? (tool.arguments.map fun a => [a.name]) j = some values ∧
      ∀ p ∈ tool.arguments.zip values, p.1.required = true → p.2 ≠ none := by
  unfold ofArguments? at h
  simp only [Option.bind_eq_bind, Option.bind_eq_some_iff] at h
  obtain ⟨values, hvalues, h⟩ := h
  refine ⟨values, hvalues, ?_⟩
  split at h
  next query limit =>
    obtain ⟨q, hquery, -⟩ := Option.bind_eq_some_iff.mp h
    have hgiven : query ≠ none := by
      rintro rfl
      cases hquery
    simp [Tool.arguments, hgiven]
  next verbose => simp [Tool.arguments]
  next package name =>
    simp only [Option.bind_eq_some_iff] at h
    obtain ⟨p, hpackage, n, ⟨k, hname, -⟩, -⟩ := h
    have hgiven : package ≠ none := by
      rintro rfl
      cases hpackage
    simp [Tool.arguments, hgiven, hname]
  next package => simp [Tool.arguments]
  next => cases h

namespace Session

variable {s t : Session}

/-- Listings are fetched again one by one while the reducer goes on: before each fetch is counted,
before it is started, and after the last one. -/
inductive Refetches : Session → List Listing → Session → Prop where
  | done {s t : Session} (h : Reduces s t) : Refetches s [] t
  | fetch {s t u v x : Session} {l : Listing} {ls : List Listing} (hst : Reduces s t)
      (hu : Reduces (t.announce l) u) (hv : u.launch t.announced.length = some v)
      (rest : Refetches v ls x) : Refetches s (l :: ls) x

/-- However the reducer goes on meanwhile, fetching listings again comes to the same. -/
theorem Refetches.quiesce_eq {ls : List Listing} {x : Session} (hx : Refetches s ls x)
    (h : Calm s) : x.quiesce = (ls.foldl retry s).quiesce := by
  induction hx with
  | done hst => exact hst.quiesce_eq
  | @fetch s t u v x l ls hst hu hv rest ih =>
    obtain ⟨t', htt', hannounced, rfl⟩ := exists_of_reduces_announce hu
    have ht' : Calm t' := (h.reduces hst).reduces htt'
    rw [← hannounced, launch_announce] at hv
    obtain rfl := Option.some.inj hv
    calc x.quiesce = (ls.foldl Session.retry (t'.retry l)).quiesce := ih (ht'.retry l)
      _ = (l :: ls).foldl Session.retry t'.quiesce := ht'.quiesce_retry (l :: ls)
      _ = (l :: ls).foldl Session.retry s.quiesce := by rw [htt'.quiesce_eq, hst.quiesce_eq]
      _ = ((l :: ls).foldl Session.retry s).quiesce := (h.quiesce_retry (l :: ls)).symm

/-- A request that cannot be read changes nothing, any other one is a call. -/
theorem serve_cases (g : Settings) (s : Session) (name : Text) (arguments : Json) :
    (s.serve Float Text.resembles g name arguments).1 = s ∨
      ∃ c : ToolCall, c.tool.name = name ∧
        (s.serve Float Text.resembles g name arguments).1 =
          (s.call Float Text.resembles g c).1 ∧
        ((s.serve Float Text.resembles g name arguments).2.isError = true →
          ∃ message, (s.call Float Text.resembles g c).2 = .error message) := by
  unfold serve
  split
  next => exact .inl rfl
  next tool htool =>
    split
    next => exact .inl rfl
    next c hc =>
      have hname : c.tool.name = name := by
        rw [ToolCall.tool_of_ofArguments? hc]
        simpa using List.find?_some htool
      refine .inr ⟨c, hname, ?_⟩
      split
      next t text hcall => exact ⟨by rw [hcall], fun herror => by cases herror⟩
      next t message hcall => exact ⟨by rw [hcall], fun _ => ⟨message, by rw [hcall]⟩⟩

/-- A call is turned away as one of an unknown tool exactly if no tool is listed under its name. -/
theorem serve_eq_unknownTool_iff (g : Settings) (s : Session) (name : Text) (arguments : Json) :
    (s.serve Float Text.resembles g name arguments).2 = .unknownTool ↔
      ToolInfo.named? name = none := by
  rw [ToolInfo.named?, Option.map_eq_none_iff]
  unfold serve
  split
  next htool => exact iff_of_true rfl htool
  next tool htool =>
    refine iff_of_false ?_ (by simp [htool])
    split
    next => nofun
    next => split <;> nofun

theorem Reachable.quiesce_retried (h : Reachable s) (c : ToolCall) :
    ((s.retried c).foldl retry s).quiesce = (s.retried c).foldl retry s.quiesce := by
  cases hs : s.state.index? with
  | none =>
    rw [retried_eq_nil hs]
    rfl
  | some i => exact (h.calm_of_index hs).quiesce_retry _

theorem callRetry_of_error {package : Option Text} {message : Text}
    (h : (s.callRetry package).2 = .error message) : (s.callRetry package).1 = s := by
  cases package with
  | none =>
    simp only [callRetry] at h
    split at h <;> cases h
  | some package =>
    cases hi : s.state.index? with
    | none => simp [callRetry, hi]
    | some i =>
      cases hl : i.failed.find? fun l => l.identifier = Text.trim package with
      | none => simp [callRetry, hi, hl]
      | some l => simp [callRetry, hi, hl] at h

/-- A search fails only where the catalog has failed. -/
theorem unavailable_of_search_error {query base message : Text} {limit : Nat} {p : Progress}
    {state : State}
    (h : Page.search Float Text.resembles query limit base p state = .error message) :
    ∃ e, state = .unavailable e := by
  unfold Page.search at h
  split at h
  next e => exact ⟨e, rfl⟩
  next => split at h <;> cases h

/-- A search that fails has left no trace, however far the reducer has come when it fails. -/
theorem quiesce_of_search_error {query query' base message : Text} {limit : Nat} {p : Progress}
    (ht : Reduces (s.setQuery query) t)
    (h : Page.search Float Text.resembles query' limit base p t.state = .error message) :
    t.quiesce = s.quiesce := by
  obtain ⟨e, he⟩ := unavailable_of_search_error h
  obtain ⟨e', he'⟩ := quiesce_unavailable t he
  rw [ht.quiesce_eq] at he' ⊢
  exact quiesce_setQuery_of_unavailable he'

theorem quiesce_call_of_error {g : Settings} {c : ToolCall} {message : Text}
    (h : (s.call Float Text.resembles g c).2 = .error message) :
    (s.call Float Text.resembles g c).1.quiesce = s.quiesce := by
  cases c with
  | search query limit => exact quiesce_of_search_error .refl h
  | status verbose => rfl
  | lookup package name => rfl
  | retry package => exact congrArg quiesce (callRetry_of_error h)

theorem call_retry (g : Settings) (s : Session) (package : Option Text) :
    (s.call Float Text.resembles g (.retry package)).1 =
      (s.retried (.retry package)).foldl retry s := call_fst Float Text.resembles g s _

/-- A retry comes to the same however the reducer goes on while it counts and starts its fetches. -/
theorem Reachable.quiesce_refetches (h : Reachable s) {g : Settings} {package : Option Text}
    {u : Session} (hu : Refetches s (s.retried (.retry package)) u) :
    u.quiesce = (s.call Float Text.resembles g (.retry package)).1.quiesce := by
  rw [call_retry]
  cases hs : s.state.index? with
  | none =>
    rw [retried_eq_nil hs] at hu ⊢
    cases hu with
    | done hst => exact hst.quiesce_eq
  | some i => exact hu.quiesce_eq (h.calm_of_index hs)

/-- What a request for a tool does to a session, whatever the session and the arguments, once the
reducer is through with what was sent. A look changes nothing. A search changes at most the query of
an index. A retry only adds fetches and counts as many as it adds, also when the reducer goes on in
between. An error leaves no trace, also when a search meets it only after its query was sent. -/
theorem Reachable.serve_effect (h : Reachable s) (g : Settings) (name : Text) (arguments : Json) :
    let r := s.serve Float Text.resembles g name arguments
    Reachable r.1 ∧
    (name = "status" ∨ name = "lookup" → r.1 = s) ∧
    (name = "search" → r.1.quiesce = s.quiesce ∨
      ∃ i query, s.quiesce.state = .indexed i ∧
        r.1.quiesce = { s.quiesce with state := .indexed { i with query } }) ∧
    (name = "retry" → ∃ ls : List Listing,
      r.1.progress = s.progress.issue ls.length ∧
      r.1.quiesce = { s.quiesce with
        progress := s.quiesce.progress.issue ls.length
        fetches := s.quiesce.fetches ++ Fetch.ofListings s.quiesce.requests.length ls
        requests := s.quiesce.requests ++ Listing.releases ls }) ∧
    (r.2.isError = true → r.1.quiesce = s.quiesce) ∧
    (∀ package u, Refetches s (s.retried (.retry package)) u →
      u.quiesce = (s.call Float Text.resembles g (.retry package)).1.quiesce) ∧
    ∀ query limit p t message, Reduces (s.setQuery query) t →
      Page.search Float Text.resembles query limit g.baseUrl p t.state = .error message →
      t.quiesce = s.quiesce := by
  intro r
  obtain hsame | ⟨c, rfl, hcall, herror⟩ := serve_cases g s name arguments
  · have hr : r.1 = s := hsame
    rw [hr]
    exact ⟨h, fun _ => rfl, fun _ => .inl rfl, fun _ => ⟨[], rfl, foldl_retry_eq s.quiesce []⟩,
      fun _ => rfl, fun package u hu => h.quiesce_refetches hu,
      fun query limit p t message ht => quiesce_of_search_error ht⟩
  · have hr : r.1 = (s.call Float Text.resembles g c).1 := hcall
    rw [hr]
    refine ⟨h.call g c, fun hname => ?_, fun hname => ?_, fun hname => ?_, fun hr => ?_,
      fun package u hu => h.quiesce_refetches hu,
      fun query limit p t message ht => quiesce_of_search_error ht⟩
    · have htool : c.tool = .status ∨ c.tool = .lookup :=
        hname.imp (@Tool.name_injective _ .status) (@Tool.name_injective _ .lookup)
      cases c with
      | status verbose => rfl
      | lookup package name => rfl
      | _ => simp [ToolCall.tool] at htool
    · have htool : c.tool = .search := Tool.name_injective hname
      cases c with
      | search query limit =>
        exact (quiesce_setQuery_cases s (Text.trim query)).imp_right fun ⟨i, hi, heq⟩ =>
          ⟨i, _, hi, heq⟩
      | _ => cases htool
    · have htool : c.tool = .retry := Tool.name_injective hname
      cases c with
      | retry package =>
        refine ⟨s.retried (.retry package), ?_, ?_⟩
        · rw [call_retry, foldl_retry_eq]
        · rw [call_retry, h.quiesce_retried, foldl_retry_eq]
      | _ => cases htool
    · obtain ⟨message, hmessage⟩ := herror hr
      exact quiesce_call_of_error hmessage

def oddFailed : List Action :=
  [.endCatalog] ++ List.replicate 7 .reduce ++ [.endFetch 1] ++ List.replicate 3 .reduce

/-- The failed listing is fetched again, and a look-up without a name is refused. -/
theorem serve_effect_odd :
    ∃ s log started,
      follow sampleAnswers oddFailed (Session.start, [], []) = some (s, log, started) ∧
      s.progress = ⟨.loaded, 4, 0, 1⟩ ∧
      (∃ ls : List Listing, ls.length = 1 ∧
        (s.serve Float Text.resembles Settings.standard "retry"
          (.ofMembers [("package", .ofText "odd")])).1.quiesce =
          { s.quiesce with
            progress := s.quiesce.progress.issue ls.length
            fetches := s.quiesce.fetches ++ Fetch.ofListings s.quiesce.requests.length ls
            requests := s.quiesce.requests ++ Listing.releases ls }) ∧
      (s.serve Float Text.resembles Settings.standard "lookup"
        (.ofMembers [("package", .ofText "a/b"), ("name", .ofText "")])).2 =
          .failure "Name must not be empty" ∧
      (s.serve Float Text.resembles Settings.standard "lookup"
        (.ofMembers [("package", .ofText "a/b"), ("name", .ofText "")])).1.quiesce = s.quiesce := by
  obtain ⟨⟨s, log, started⟩, h⟩ :
      ∃ c, follow sampleAnswers oddFailed (Session.start, [], []) = some c := ⟨_, rfl⟩
  have hend : (follow sampleAnswers oddFailed (Session.start, [], [])).map (fun c =>
      (c.1.progress,
        (c.1.serve Float Text.resembles Settings.standard "retry"
          (.ofMembers [("package", .ofText "odd")])).1.progress,
        (c.1.serve Float Text.resembles Settings.standard "lookup"
          (.ofMembers [("package", .ofText "a/b"), ("name", .ofText "")])).2)) =
      some (⟨.loaded, 4, 0, 1⟩, ⟨.loaded, 5, 0, 1⟩, .failure "Name must not be empty") := rfl
  rw [h, Option.map_some, Option.some.injEq] at hend
  simp only [Prod.mk.injEq] at hend
  obtain ⟨hp, hretried, hlookup⟩ := hend
  have run : Run sampleAnswers (fun _ => True) s log started :=
    Run.follow .start (fun _ _ => trivial) h
  have hs : Reachable s := run.reachable
  obtain ⟨-, -, -, hretry, -⟩ := hs.serve_effect Settings.standard "retry"
    (.ofMembers [("package", .ofText "odd")])
  obtain ⟨-, -, -, -, herror, -⟩ := hs.serve_effect Settings.standard "lookup"
    (.ofMembers [("package", .ofText "a/b"), ("name", .ofText "")])
  obtain ⟨ls, hissued, hquiesced⟩ := hretry rfl
  refine ⟨s, log, started, h, hp, ⟨ls, ?_, hquiesced⟩, hlookup, herror ?_⟩
  · have hcount : 4 + ls.length = 5 := by
      have hboth := hissued.symm.trans hretried
      rw [hp] at hboth
      exact congrArg Progress.issued hboth
    omega
  · rw [hlookup]
    rfl

end Session

end DocIndex
