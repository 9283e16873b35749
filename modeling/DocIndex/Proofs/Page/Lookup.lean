import DocIndex.Json.Read
import DocIndex.Page.Lookup
import DocIndex.Proofs.Directive
import DocIndex.Proofs.Name
import DocIndex.Proofs.Page.Selection

/-!
Looking up what a search shows. A value is shown under its dotted name and with the identifier of
its release; a look-up of these two texts finds it, unless its identifier has a dot in it or the
release's identifier starts with a blank.
-/
namespace DocIndex

namespace Index

variable {i : Index} {h : Holding} {id : Text}

theorem findHolding?_of_get? (hheld : i.holdings.get? id = some h) :
    i.findHolding? id = some (id, h) := by
  rw [findHolding?, hheld]

/-- A release whose identifier starts with a blank is not found by it, as the request is trimmed. -/
theorem findHolding?_trim_ne {r : Release} (hid : r.identifier = id) (htrim : Text.trim id ≠ id) :
    i.findHolding? (Text.trim id) ≠ some (id, h) := by
  intro hfind
  obtain ⟨before, happend, hbefore⟩ := r.exists_append_trim_identifier
  rw [hid] at happend
  obtain ⟨c, before, rfl⟩ : ∃ c rest, before = c :: rest :=
    List.exists_cons_of_ne_nil fun hnil => htrim (by simpa [hnil] using happend.symm)
  have hc : Text.isBlank c = true := hbefore c List.mem_cons_self
  rcases findHolding?_eq_some_iff.mp hfind with ⟨-, hkey | ⟨-, ⟨rest, hrest⟩, -⟩⟩
  · exact htrim hkey.symm
  · have hstart := hrest.trans happend
    cases htext : Text.trim id with
    | nil =>
      rw [htext] at hstart
      obtain rfl := (List.cons.inj hstart).1
      exact absurd hc (by decide)
    | cons d t =>
      have hd : Text.isBlank d = false := Text.not_of_trimWhile_eq_cons htext
      rw [htext] at hstart
      obtain rfl := (List.cons.inj hstart).1
      rw [hd] at hc
      cases hc

end Index

namespace Holding

variable {h : Holding} {n : Name}

/-- A name that is exported is one of those that it may mean. -/
theorem mem_candidates (hn : n ∈ h.exports.resolve n.ident) : n ∈ h.candidates n :=
  List.mem_filter.mpr ⟨hn, by simp⟩

/-- A name in a home that is no module of the documentation means nothing. -/
theorem candidates_eq_nil (hexports : h.exports = Exports.ofDocs h.docs) (hh : n.home ≠ [])
    (hmodule : ∀ m ∈ h.docs.modules.values, m.name ≠ n.home) : h.candidates n = [] := by
  refine List.filter_eq_nil_iff.mpr fun c hc hhome => ?_
  rw [hexports, Exports.resolve_ofDocs] at hc
  obtain ⟨key, m, e, hm, hname, -⟩ := Docs.mem_exportedNames_iff.mp (List.mem_filter.mp hc).1
  have hhome : c.home = n.home := by simpa [hh] using hhome
  exact hmodule m (TextMap.mem_values_iff.mpr ⟨key, hm⟩) (hname.trans hhome)

end Holding

namespace Page

variable {i : Index} {h : Holding} {package id : Text} {n c : Name} (base : Text)

theorem lookup_of_findHolding? (hfound : i.findHolding? (Text.trim package) = some (id, h))
    (hn : n.ident ≠ []) : lookup base (.indexed i) package n = .ok (lookupIn base id h n) := by
  have hident : n.ident.isEmpty = false := by simpa using hn
  simp only [lookup, hident, State.index?, hfound]
  rfl

theorem lookup_of_get? (hheld : i.holdings.get? package = some h)
    (htrim : Text.trim package = package) (hn : n.ident ≠ []) :
    lookup base (.indexed i) package n = .ok (lookupIn base package h n) :=
  lookup_of_findHolding? base (htrim.symm ▸ Index.findHolding?_of_get? hheld) hn

/-- The answer has the block of each name that the asked one may mean. -/
theorem lookupIn_of_mem (hc : c ∈ h.candidates n) :
    ∃ before after, lookupIn base package h n =
      '\'' :: n.dotted ++ "' in ".toList ++ package ++ ":\n\n".toList ++
        (before ++ candidateBlock base h c ++ after) := by
  obtain ⟨first, rest, hcandidates⟩ := List.append_of_mem hc
  refine ⟨first.flatMap (candidateBlock base h), rest.flatMap (candidateBlock base h), ?_⟩
  unfold lookupIn
  split
  next hnil =>
    rw [hnil] at hc
    cases hc
  next => simp [hcandidates]

theorem lookupIn_of_candidates_eq_nil (hnone : h.candidates n = []) :
    lookupIn base package h n =
      "No value named '".toList ++ n.dotted ++ "' in ".toList ++ package ++ ['.'] := by
  rw [lookupIn, hnone]

theorem candidateBlock_of_entry? {e : Entry Text} (he : h.docs.entry? c = some e) :
    candidateBlock base h c = '`' :: c.dotted ++ "`\n   : ".toList ++ e.signature ++
      "\n   ".toList ++ h.release.valueUrl base c ++ "\n\n".toList := by
  rw [candidateBlock, he]
  simp

/-- What a look-up answers when it is asked for what a search shows of a value, the identifier of its
release and its dotted name. The value is documented in what is held of its release, and the modules
of the release have dotted alphanumeric names. An identifier without dots is found: the answer lists
the name with its signature as it is written and its link. With dots in it only a part of the
identifier is looked up, in a home that is no module, and nothing is found. A release whose
identifier has blanks to be trimmed is not reached. -/
theorem lookup_dotted {log : Log} (hstate : State.waiting.afterAll log = .indexed i)
    {v : IndexedValue} (hheld : i.holdings.get? v.package = some h) {body : Text}
    (hbody : (Json.read? body).bind Docs.ofJson? = some h.docs)
    (hmodules : ∀ m ∈ h.docs.modules.values, ∀ c ∈ m.name, Text.isAlphanumeric c = true ∨ c = '.')
    (hv : v ∈ h.docs.values v.package) :
    ∃ asked e, Name.ofJson? (Json.ofText v.name.dotted) = some asked ∧
      h.docs.entry? v.name = some e ∧ Ty.ofSignature e.signature = v.entry.signature ∧
      (Text.trim v.package = v.package → '.' ∉ v.name.ident →
        ∃ before after, lookup base (.indexed i) v.package asked =
          .ok ('\'' :: v.name.dotted ++ "' in ".toList ++ v.package ++ ":\n\n".toList ++
            (before ++ ('`' :: v.name.dotted ++ "`\n   : ".toList ++ e.signature ++
              "\n   ".toList ++ h.release.valueUrl base v.name ++ "\n\n".toList) ++ after))) ∧
      (Text.trim v.package = v.package → '.' ∈ v.name.ident →
        lookup base (.indexed i) v.package asked =
          .ok ("No value named '".toList ++ v.name.dotted ++ "' in ".toList ++ v.package ++
            ['.'])) ∧
      (Text.trim v.package ≠ v.package →
        i.findHolding? (Text.trim v.package) ≠ some (v.package, h)) := by
  obtain rfl : i = log.index := by
    rw [Log.afterAll_waiting] at hstate
    exact Log.index_of_state hstate
  obtain ⟨hid, hof, -⟩ := Log.loads_of_get?_holdings hheld
  obtain ⟨ms, -, hdocs⟩ := Docs.bind_ofJson?_eq_some_iff.mp hbody
  have hkeyed : h.docs.Keyed := hdocs ▸ Docs.keyed_ofModules _
  obtain ⟨m, e, hm, he, -, hsignature, hresolve⟩ := Docs.documentedIn_of_mem_values hkeyed
    (r := h.release) hv
  rw [← hof] at hm hresolve
  have hident := Docs.isIdentifier_of_mem_values hv
  obtain ⟨_, _, hcons, -, hplain⟩ := Directive.exists_cons_of_isIdentifier hident
  have hne : v.name.ident ≠ [] := hcons ▸ List.cons_ne_nil _ _
  have hentry : h.docs.entry? v.name = some e := by
    rw [Docs.entry?, hm]
    exact he
  have hhome : ∀ c ∈ v.name.home, Text.isAlphanumeric c = true ∨ c = '.' := by
    rw [← hkeyed v.name.home m hm]
    exact hmodules m (TextMap.mem_values_iff.mpr ⟨_, hm⟩)
  have htrim : Text.trim v.name.dotted = v.name.dotted := Name.trim_dotted hhome hplain
  have hread : Name.ofJson? (Json.ofText v.name.dotted) =
    some (Name.ofDotted (Text.trim v.name.dotted)) := rfl
  refine ⟨Name.ofDotted v.name.dotted, e, ?_, hentry, hsignature, fun hpackage hdot => ?_,
    fun hpackage hdot => ?_, Index.findHolding?_trim_ne hid⟩
  · rw [hread, htrim]
  · rw [Name.ofDotted_dotted hne hdot, lookup_of_get? base hheld hpackage hne]
    obtain ⟨before, after, hanswer⟩ := lookupIn_of_mem base (Holding.mem_candidates hresolve)
    exact ⟨before, after, by rw [hanswer, candidateBlock_of_entry? base hentry]⟩
  · obtain ⟨rest, hopen, hclose⟩ := Directive.exists_operator_of_mem hident (by decide) hdot
    obtain ⟨hparen, hne', hdotted⟩ := Name.ofDotted_dotted_operator hopen hclose hdot
    have hnone : h.candidates (Name.ofDotted v.name.dotted) = [] := by
      refine Holding.candidates_eq_nil (congrArg Holding.exports hof) (List.ne_nil_of_mem hparen)
        fun m hm hname => ?_
      rcases hmodules m hm '(' (hname ▸ hparen) with hc | hc
      · exact absurd hc (by decide +kernel)
      · exact absurd hc (by decide)
    rw [lookup_of_get? base hheld hpackage hne', lookupIn_of_candidates_eq_nil base hnone,
      hdotted]

def parserBody : Text :=
  "[\x7b\"name\":\"Parser\",\"comment\":\"\\n@docs (|.), (|=)\",\"binops\":[".toList ++
    "\x7b\"name\":\"|.\",\"type\":\"Parser keep -> Parser ignore -> Parser keep\"\x7d,".toList ++
    "\x7b\"name\":\"|=\",\"type\":\"Parser (a -> b) -> Parser a -> Parser b\"\x7d]\x7d]".toList

def parserModule : ModuleSource where
  name := "Parser"
  comment := "\n@docs (|.), (|=)"
  values := []
  aliases := []
  types := []
  operators := [⟨"|.", [], "Parser keep -> Parser ignore -> Parser keep"⟩,
    ⟨"|=", [], "Parser (a -> b) -> Parser a -> Parser b"⟩]

def parserDocs : Docs := Docs.ofSources [parserModule]

def parserLoaded : Log := [.docsArrived ⟨"elm", "parser", ⟨1, 1, 0⟩⟩ parserDocs]

def operatorValue (ident signature : Text) : IndexedValue :=
  .ofEntry "elm/parser/1.1.0" "Parser" ident ⟨ident, [], signature⟩

theorem parserDocs_values : parserDocs.values "elm/parser/1.1.0" =
    [operatorValue "(|.)" "Parser keep -> Parser ignore -> Parser keep",
      operatorValue "(|=)" "Parser (a -> b) -> Parser a -> Parser b"] := by
  have hlisted : Directive.documentedNames Directive.isIdentifier parserModule.comment =
    ["(|.)".toList, "(|=)".toList] := by decide +kernel
  have hkeep : parserModule.docs.entries.get? "(|.)" =
    some ⟨"(|.)", [], "Parser keep -> Parser ignore -> Parser keep"⟩ := by decide +kernel
  have happly : parserModule.docs.entries.get? "(|=)" =
    some ⟨"(|=)", [], "Parser (a -> b) -> Parser a -> Parser b"⟩ := by decide +kernel
  have hmodule : parserDocs.modules.values = [parserModule.docs] := rfl
  have hcomment : parserModule.docs.comment = parserModule.comment := rfl
  rw [Docs.values, hmodule, List.flatMap_singleton, ModuleDocs.values, hcomment, hlisted,
    List.filterMap_cons, hkeep, List.filterMap_cons, happly]
  rfl

theorem afterAll_parserLoaded : State.waiting.afterAll parserLoaded = .indexed parserLoaded.index :=
  (Log.afterAll_waiting parserLoaded).trans rfl

theorem lookup_dotted_apply :
    ∃ before after, lookup "https://pkg.example" (.indexed parserLoaded.index) "elm/parser/1.1.0"
      ⟨"Parser", "(|=)"⟩ = .ok ("'Parser.(|=)' in elm/parser/1.1.0:\n\n".toList ++ (before ++
        ("`Parser.(|=)`\n   : Parser (a -> b) -> Parser a -> Parser b\n   ".toList ++
          "https://pkg.example/packages/elm/parser/1.1.0/Parser#(|=)\n\n".toList) ++ after)) := by
  let v := operatorValue "(|=)" "Parser (a -> b) -> Parser a -> Parser b"
  let h := Holding.of ⟨"elm", "parser", ⟨1, 1, 0⟩⟩ parserDocs
  have hheld : parserLoaded.index.holdings.get? v.package = some h := rfl
  have hsources : (Json.read? parserBody).bind (Json.list? ModuleSource.ofJson?) =
    some [parserModule] := by decide +kernel
  have hbody : (Json.read? parserBody).bind Docs.ofJson? = some h.docs :=
    Docs.bind_ofJson?_eq_some_iff.mpr ⟨_, hsources, rfl⟩
  have hmodules : ∀ m ∈ h.docs.modules.values, ∀ c ∈ m.name,
      Text.isAlphanumeric c = true ∨ c = '.' := by
    intro m hm c hc
    obtain rfl : m = parserModule.docs := List.mem_singleton.mp hm
    have hname : parserModule.docs.name.all Text.isAlphanumeric = true := by decide +kernel
    exact .inl (List.all_eq_true.mp hname c hc)
  have hv : v ∈ h.docs.values v.package := by
    have hmem : v ∈ parserDocs.values "elm/parser/1.1.0" := by
      rw [parserDocs_values]
      exact List.mem_cons_of_mem _ (List.mem_singleton_self _)
    exact hmem
  have hpackage : Text.trim v.package = v.package := by decide +kernel
  have hdot : '.' ∉ v.name.ident := by decide +kernel
  obtain ⟨asked, e, hasked, he, hsignature, hfound, -, -⟩ :=
    lookup_dotted "https://pkg.example" afterAll_parserLoaded hheld hbody hmodules hv
  obtain ⟨before, after, hanswer⟩ := hfound hpackage hdot
  have hasked' : Name.ofJson? (Json.ofText v.name.dotted) = some ⟨"Parser", "(|=)"⟩ := by
    decide +kernel
  have he' : h.docs.entry? v.name =
    some ⟨"(|=)", [], "Parser (a -> b) -> Parser a -> Parser b"⟩ := by decide +kernel
  obtain rfl := Option.some.inj (hasked.symm.trans hasked')
  obtain rfl := Option.some.inj (he.symm.trans he')
  have hhead : '\'' :: v.name.dotted ++ "' in ".toList ++ v.package ++ ":\n\n".toList =
    "'Parser.(|=)' in elm/parser/1.1.0:\n\n".toList := by decide +kernel
  have hblock : '`' :: v.name.dotted ++ "`\n   : ".toList ++
      "Parser (a -> b) -> Parser a -> Parser b".toList ++ "\n   ".toList ++
        h.release.valueUrl "https://pkg.example" v.name ++ "\n\n".toList =
      "`Parser.(|=)`\n   : Parser (a -> b) -> Parser a -> Parser b\n   ".toList ++
        "https://pkg.example/packages/elm/parser/1.1.0/Parser#(|=)\n\n".toList := by
    decide +kernel
  rw [hhead, hblock] at hanswer
  exact ⟨before, after, hanswer⟩

/-- The operator with a dot in it is indexed, and a look-up of its dotted name finds nothing. -/
theorem lookup_dotted_keep :
    ∃ v ∈ parserLoaded.index.values, v.name = ⟨"Parser", "(|.)"⟩ ∧
      v.package = "elm/parser/1.1.0".toList ∧
      Name.ofJson? (Json.ofText v.name.dotted) = some ⟨"Parser.(|", ")"⟩ ∧
      lookup "https://pkg.example" (State.waiting.afterAll parserLoaded) v.package
        ⟨"Parser.(|", ")"⟩ = .ok "No value named 'Parser.(|.)' in elm/parser/1.1.0." := by
  let h := Holding.of ⟨"elm", "parser", ⟨1, 1, 0⟩⟩ parserDocs
  have hheld : parserLoaded.index.holdings.get? "elm/parser/1.1.0" = some h := rfl
  have hpackage : Text.trim "elm/parser/1.1.0" = "elm/parser/1.1.0".toList := by decide +kernel
  have hnone : h.candidates ⟨"Parser.(|", ")"⟩ = [] := by decide +kernel
  have hid : Release.identifier ⟨"elm", "parser", ⟨1, 1, 0⟩⟩ = "elm/parser/1.1.0" := by
    decide +kernel
  have hvalues : parserLoaded.index.values =
    parserDocs.values (Release.identifier ⟨"elm", "parser", ⟨1, 1, 0⟩⟩) ++ [] := rfl
  refine ⟨operatorValue "(|.)" "Parser keep -> Parser ignore -> Parser keep", ?_, rfl, rfl, ?_, ?_⟩
  · rw [hvalues, hid, parserDocs_values]
    exact List.mem_cons_self
  · decide +kernel
  · rw [afterAll_parserLoaded]
    refine (lookup_of_get? _ hheld hpackage (List.cons_ne_nil _ _)).trans ?_
    rw [lookupIn_of_candidates_eq_nil _ hnone]
    decide +kernel

end Page

end DocIndex
