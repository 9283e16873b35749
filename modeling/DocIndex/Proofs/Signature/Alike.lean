import DocIndex.Proofs.Scale.Perfect
import DocIndex.Proofs.Signature.Renaming
import DocIndex.Signature.Distance

/-!
Types at no distance. The distance of two types is zero exactly if they have the same shape with the
same constructors and variables, where of a record only the fields of the query are looked at and
never the variable that it extends.
-/
namespace DocIndex.Ty

/-- What a query leaves unsaid of a type that matches it perfectly: the qualification of
constructors, the further fields of records, and the variables that they extend. -/
inductive Alike : Ty → Ty → Prop where
  | var (name : Text) : Alike (.var name) (.var name)
  | apply {head head' : Text} {args args' : List Ty}
      (hhead : Text.afterLast '.' head = Text.afterLast '.' head')
      (hlength : args.length = args'.length) (h : ∀ p ∈ args.zip args', Alike p.1 p.2) :
      Alike (.apply head args) (.apply head' args')
  | function {args args' : List Ty} {result result' : Ty} (hlength : args.length = args'.length)
      (h : ∀ p ∈ args.zip args', Alike p.1 p.2) (hr : Alike result result') :
      Alike (.function args result) (.function args' result')
  | tuple {items items' : List Ty} (hlength : items.length = items'.length)
      (h : ∀ p ∈ items.zip items', Alike p.1 p.2) : Alike (.tuple items) (.tuple items')
  | record {fields fields' : List (Text × Ty)} {base base' : Option Text}
      (hempty : fields = [] → fields' = [])
      (hfound : ∀ f ∈ fields, (fields'.lookup f.1).isSome)
      (h : ∀ f ∈ fields, ∀ u ∈ fields'.lookup f.1, Alike f.2 u) :
      Alike (.record fields base) (.record fields' base')

section

variable {σ : Type} [Scale σ]

theorem distances_eq (ts us : List Ty) :
    (distances ts us : List σ) = (ts.zip us).map fun p => p.1.distance p.2 := by
  induction ts generalizing us with
  | nil => rfl
  | cons t ts ih =>
    cases us with
    | nil => rfl
    | cons u us => rw [distances, ih, List.zip_cons_cons, List.map_cons]

def fieldDistance (fields : List (Text × Ty)) (f : Text × Ty) : σ :=
  match fields.lookup f.1 with
  | some u => f.2.distance u
  | none => Scale.unrelated

theorem fieldDistances_eq (fields fields' : List (Text × Ty)) :
    (fieldDistances fields fields' : List σ) = fields.map (fieldDistance fields') := by
  induction fields with
  | nil => rfl
  | cons f fields ih =>
    rw [fieldDistances, ih, List.map_cons]
    rfl

theorem Alike.distance_eq (hs : Scale.Perfects σ) {t u : Ty} (h : Alike t u) :
    (t.distance u : σ) = Scale.perfect := by
  induction h with
  | var name => simp [distance]
  | @apply head head' args args' hhead hlength _ ih =>
    have hparts : Scale.mean (distances args args') = (Scale.perfect : σ) := by
      rw [distances_eq]
      exact hs.mean _ (List.forall_mem_map.mpr ih)
    have hheads : (headDistance head head' : σ) = Scale.perfect := by
      simp [headDistance, hhead]
    rw [distance, if_pos hlength]
    split
    · exact hheads
    · rw [hheads, hparts, hs.midpoint]
  | @function args args' result result' hlength _ _ ih ihr =>
    rw [distance, if_pos hlength, distances_eq, ihr]
    refine hs.mean _ fun d hd => ?_
    rcases List.mem_append.mp hd with hd | hd
    · obtain ⟨p, hp, rfl⟩ := List.mem_map.mp hd
      exact ih p hp
    · exact List.mem_singleton.mp hd
  | tuple hlength _ ih =>
    rw [distance, if_pos hlength, distances_eq]
    exact hs.mean _ (List.forall_mem_map.mpr ih)
  | @record fields fields' base base' hempty hfound _ ih =>
    rw [distance]
    split
    next hnil => simp [hempty (List.isEmpty_iff.mp hnil)]
    next =>
      rw [fieldDistances_eq]
      refine hs.mean _ (List.forall_mem_map.mpr fun f hf => ?_)
      obtain ⟨u, hu⟩ := Option.isSome_iff_exists.mp (hfound f hf)
      rw [fieldDistance, hu]
      exact ih f hf u hu

end

theorem low_pos : (0 : ℚ) < Scale.low := by simp [Scale.low]

theorem medium_pos : (0 : ℚ) < Scale.medium := by simp [Scale.medium]

theorem unrelated_pos : (0 : ℚ) < Scale.unrelated := by simp [Scale.unrelated]

theorem headDistance_nonneg (head head' : Text) : (0 : ℚ) ≤ headDistance head head' := by
  simp only [headDistance]
  split_ifs
  · exact le_refl 0
  · exact low_pos.le
  · exact unrelated_pos.le

/-- Only heads with the same last part are at no distance. -/
theorem headDistance_eq_zero_iff {head head' : Text} :
    headDistance head head' = (0 : ℚ) ↔ Text.afterLast '.' head = Text.afterLast '.' head' := by
  simp only [headDistance]
  constructor
  · intro h
    split_ifs at h with heq
    · exact heq
    · exact absurd h low_pos.ne'
    · exact absurd h unrelated_pos.ne'
  · intro h
    rw [if_pos h]
    rfl

/-- A distance is not negative, and it is zero only between alike types. -/
def Measured (t u : Ty) : Prop := (0 : ℚ) ≤ t.distance u ∧ (t.distance u = (0 : ℚ) → Alike t u)

theorem measured_of_pos {t u : Ty} (h : (0 : ℚ) < t.distance u) : Measured t u :=
  ⟨h.le, fun hzero => absurd hzero h.ne'⟩

theorem distances_nonneg {ts : List Ty} (h : ∀ t ∈ ts, ∀ u, Measured t u) (us : List Ty) :
    ∀ d ∈ (distances ts us : List ℚ), 0 ≤ d := by
  rw [distances_eq]
  refine List.forall_mem_map.mpr fun p hp => ?_
  exact (h p.1 (List.of_mem_zip hp).1 p.2).1

theorem alike_of_distances {ts us : List Ty} (h : ∀ t ∈ ts, ∀ u, Measured t u)
    (hzero : ∀ d ∈ (distances ts us : List ℚ), d = 0) : ∀ p ∈ ts.zip us, Alike p.1 p.2 := by
  rw [distances_eq] at hzero
  intro p hp
  exact (h p.1 (List.of_mem_zip hp).1 p.2).2 (hzero _ (List.mem_map_of_mem hp))

theorem fieldDistance_nonneg {f : Text × Ty} (h : ∀ u, Measured f.2 u)
    (fields : List (Text × Ty)) : (0 : ℚ) ≤ fieldDistance fields f := by
  unfold fieldDistance
  split
  next u _ => exact (h u).1
  next => exact unrelated_pos.le

theorem fieldDistances_nonneg {fields : List (Text × Ty)}
    (h : ∀ f ∈ fields, ∀ u, Measured f.2 u) (fields' : List (Text × Ty)) :
    ∀ d ∈ (fieldDistances fields fields' : List ℚ), 0 ≤ d := by
  rw [fieldDistances_eq]
  exact List.forall_mem_map.mpr fun f hf => fieldDistance_nonneg (h f hf) fields'

theorem alike_of_fieldDistance {f : Text × Ty} (h : ∀ u, Measured f.2 u)
    {fields : List (Text × Ty)} (hzero : fieldDistance fields f = (0 : ℚ)) :
    (fields.lookup f.1).isSome ∧ ∀ u ∈ fields.lookup f.1, Alike f.2 u := by
  unfold fieldDistance at hzero
  split at hzero
  next u hu =>
    rw [hu]
    exact ⟨rfl, fun u' hu' => Option.mem_some_iff.mp hu' ▸ (h u).2 hzero⟩
  next => exact absurd hzero unrelated_pos.ne'

theorem measured (t : Ty) : ∀ u, Measured t u := by
  induction t with
  | var name =>
    rintro (name' | _ | _ | _ | _)
    · by_cases hname : name = name'
      · subst hname
        refine ⟨?_, fun _ => .var name⟩
        rw [(Alike.var name).distance_eq Scale.perfects_rat]
        exact le_refl 0
      · refine measured_of_pos ?_
        rw [distance, if_neg hname]
        exact low_pos
    all_goals exact measured_of_pos medium_pos
  | apply head args ih =>
    rintro (_ | ⟨head', args'⟩ | _ | _ | _)
    · exact measured_of_pos medium_pos
    · by_cases hlength : args.length = args'.length
      · have hparts := distances_nonneg ih args'
        have hmean := Scale.mean_nonneg hparts
        have hhead := headDistance_nonneg head head'
        rw [Measured, distance, if_pos hlength]
        split
        next hnil =>
          obtain rfl := List.isEmpty_iff.mp hnil
          exact ⟨hhead, fun hzero => .apply (headDistance_eq_zero_iff.mp hzero) hlength (by simp)⟩
        next =>
          refine ⟨Scale.midpoint_nonneg hhead hmean, fun hzero => ?_⟩
          obtain ⟨hheads, hargs⟩ := (Scale.midpoint_eq_zero_iff hhead hmean).mp hzero
          exact .apply (headDistance_eq_zero_iff.mp hheads) hlength
            (alike_of_distances ih ((Scale.mean_eq_zero_iff hparts).mp hargs))
      · refine measured_of_pos ?_
        rw [distance, if_neg hlength]
        exact unrelated_pos
    all_goals exact measured_of_pos unrelated_pos
  | function args result ih ihr =>
    rintro (_ | _ | ⟨args', result'⟩ | _ | _)
    · exact measured_of_pos medium_pos
    · exact measured_of_pos unrelated_pos
    · by_cases hlength : args.length = args'.length
      · have hparts : ∀ d ∈ (distances args args' : List ℚ) ++ [result.distance result'], 0 ≤ d :=
          List.forall_mem_append.mpr
            ⟨distances_nonneg ih args', List.forall_mem_singleton.mpr (ihr result').1⟩
        rw [Measured, distance, if_pos hlength]
        refine ⟨Scale.mean_nonneg hparts, fun hzero => ?_⟩
        obtain ⟨hargs, hresult⟩ :=
          List.forall_mem_append.mp ((Scale.mean_eq_zero_iff hparts).mp hzero)
        exact .function hlength (alike_of_distances ih hargs)
          ((ihr result').2 (hresult _ (List.mem_singleton_self _)))
      · refine measured_of_pos ?_
        rw [distance, if_neg hlength]
        exact unrelated_pos
    all_goals exact measured_of_pos unrelated_pos
  | tuple items ih =>
    rintro (_ | _ | _ | items' | _)
    · exact measured_of_pos medium_pos
    · exact measured_of_pos unrelated_pos
    · exact measured_of_pos unrelated_pos
    · by_cases hlength : items.length = items'.length
      · have hparts := distances_nonneg ih items'
        rw [Measured, distance, if_pos hlength]
        refine ⟨Scale.mean_nonneg hparts, fun hzero => ?_⟩
        exact .tuple hlength (alike_of_distances ih ((Scale.mean_eq_zero_iff hparts).mp hzero))
      · refine measured_of_pos ?_
        rw [distance, if_neg hlength]
        exact unrelated_pos
    · exact measured_of_pos unrelated_pos
  | record fields base ih =>
    rintro (_ | _ | _ | _ | ⟨fields', base'⟩)
    · exact measured_of_pos medium_pos
    · exact measured_of_pos unrelated_pos
    · exact measured_of_pos unrelated_pos
    · exact measured_of_pos unrelated_pos
    · rw [Measured, distance]
      split
      next hnil =>
        obtain rfl := List.isEmpty_iff.mp hnil
        split
        next hnil' =>
          obtain rfl := List.isEmpty_iff.mp hnil'
          exact ⟨le_refl 0, fun _ => .record (fun _ => rfl) (by simp) (by simp)⟩
        next => exact ⟨low_pos.le, fun hzero => absurd hzero low_pos.ne'⟩
      next hne =>
        have hparts := fieldDistances_nonneg ih fields'
        refine ⟨Scale.mean_nonneg hparts, fun hzero => ?_⟩
        have hall := (Scale.mean_eq_zero_iff hparts).mp hzero
        rw [fieldDistances_eq] at hall
        have hfields := fun f hf =>
          alike_of_fieldDistance (ih f hf) (List.forall_mem_map.mp hall f hf)
        exact .record (fun hnil => absurd (List.isEmpty_iff.mpr hnil) hne)
          (fun f hf => (hfields f hf).1) (fun f hf => (hfields f hf).2)

/-- Exact distances are zero only between alike types. -/
theorem distance_eq_zero_iff {t u : Ty} : t.distance u = (0 : ℚ) ↔ Alike t u :=
  ⟨(measured t u).2, fun h => h.distance_eq Scale.perfects_rat⟩

theorem alike_var_iff {x y : Text} : Alike (.var x) (.var y) ↔ x = y := by
  constructor
  · rintro ⟨⟩
    rfl
  · rintro rfl
    exact .var x

theorem alike_apply_iff {head head' : Text} {args args' : List Ty} :
    Alike (.apply head args) (.apply head' args') ↔
      Text.afterLast '.' head = Text.afterLast '.' head' ∧ args.length = args'.length ∧
        ∀ p ∈ args.zip args', Alike p.1 p.2 := by
  constructor
  · rintro (_ | ⟨hhead, hlength, h⟩)
    exact ⟨hhead, hlength, h⟩
  · rintro ⟨hhead, hlength, h⟩
    exact .apply hhead hlength h

theorem alike_function_iff {args args' : List Ty} {result result' : Ty} :
    Alike (.function args result) (.function args' result') ↔
      args.length = args'.length ∧ (∀ p ∈ args.zip args', Alike p.1 p.2) ∧
        Alike result result' := by
  constructor
  · rintro (_ | _ | ⟨hlength, h, hr⟩)
    exact ⟨hlength, h, hr⟩
  · rintro ⟨hlength, h, hr⟩
    exact .function hlength h hr

theorem alike_tuple_iff {items items' : List Ty} :
    Alike (.tuple items) (.tuple items') ↔
      items.length = items'.length ∧ ∀ p ∈ items.zip items', Alike p.1 p.2 := by
  constructor
  · rintro (_ | _ | _ | ⟨hlength, h⟩)
    exact ⟨hlength, h⟩
  · rintro ⟨hlength, h⟩
    exact .tuple hlength h

theorem alike_record_iff {fields fields' : List (Text × Ty)} {base base' : Option Text} :
    Alike (.record fields base) (.record fields' base') ↔
      (fields = [] → fields' = []) ∧ (∀ f ∈ fields, (fields'.lookup f.1).isSome) ∧
        ∀ f ∈ fields, ∀ u ∈ fields'.lookup f.1, Alike f.2 u := by
  constructor
  · rintro (_ | _ | _ | _ | ⟨hempty, hfound, h⟩)
    exact ⟨hempty, hfound, h⟩
  · rintro ⟨hempty, hfound, h⟩
    exact .record hempty hfound h

/-- No record of the type repeats a field name. -/
inductive DistinctFields : Ty → Prop where
  | var {name : Text} : DistinctFields (.var name)
  | apply {head : Text} {args : List Ty} (h : ∀ a ∈ args, DistinctFields a) :
      DistinctFields (.apply head args)
  | function {args : List Ty} {result : Ty} (h : ∀ a ∈ args, DistinctFields a)
      (hr : DistinctFields result) : DistinctFields (.function args result)
  | tuple {items : List Ty} (h : ∀ i ∈ items, DistinctFields i) : DistinctFields (.tuple items)
  | record {fields : List (Text × Ty)} {base : Option Text}
      (hd : (fields.map Prod.fst).Nodup) (h : ∀ f ∈ fields, DistinctFields f.2) :
      DistinctFields (.record fields base)

/-- A field is found under its name if no other one has it. -/
theorem lookup_eq_some_of_mem {fields : List (Text × Ty)} (hd : (fields.map Prod.fst).Nodup)
    {f : Text × Ty} (hf : f ∈ fields) : fields.lookup f.1 = some f.2 := by
  induction fields with
  | nil => cases hf
  | cons g fields ih =>
    obtain ⟨hg, hd⟩ := List.nodup_cons.mp hd
    rcases List.mem_cons.mp hf with rfl | hf
    · exact List.lookup_cons_self
    · have hne : f.1 ≠ g.1 := fun h => hg (h ▸ List.mem_map_of_mem hf)
      rw [List.lookup_cons, beq_false_of_ne hne]
      exact ih hd hf

theorem lookup_map_snd (φ : Ty → Ty) (fields : List (Text × Ty)) (name : Text) :
    (fields.map fun f => (f.1, φ f.2)).lookup name = (fields.lookup name).map φ := by
  induction fields with
  | nil => rfl
  | cons f fields ih =>
    rw [List.map_cons, List.lookup_cons, List.lookup_cons, ih]
    cases name == f.1 <;> rfl

/-- Two versions of every field of a record are alike if they are alike one by one. -/
theorem alike_record_map_iff {fields : List (Text × Ty)} (hd : (fields.map Prod.fst).Nodup)
    (φ ψ : Ty → Ty) (base base' : Option Text) :
    Alike (.record (fields.map fun f => (f.1, φ f.2)) base)
        (.record (fields.map fun f => (f.1, ψ f.2)) base') ↔
      ∀ f ∈ fields, Alike (φ f.2) (ψ f.2) := by
  have hlookup : ∀ f ∈ fields,
      (fields.map fun f => (f.1, ψ f.2)).lookup f.1 = some (ψ f.2) := by
    intro f hf
    rw [lookup_map_snd, lookup_eq_some_of_mem hd hf, Option.map_some]
  rw [alike_record_iff, List.forall_mem_map, List.forall_mem_map]
  constructor
  · rintro ⟨-, -, h⟩ f hf
    exact h f hf _ (hlookup f hf)
  · intro h
    refine ⟨fun hnil => by simpa using hnil, fun f hf => by rw [hlookup f hf]; rfl, ?_⟩
    intro f hf u hu
    rw [hlookup f hf, Option.mem_some_iff] at hu
    exact hu ▸ h f hf

theorem alike_zip_map_iff (φ ψ : Ty → Ty) (ts : List Ty) :
    (∀ p ∈ (ts.map φ).zip (ts.map ψ), Alike p.1 p.2) ↔ ∀ t ∈ ts, Alike (φ t) (ψ t) := by
  rw [List.zip_map', List.forall_mem_map]

mutual

/-- The variables that distances look at: all but those that records extend. -/
def comparedVars : Ty → List Text
  | .var name => [name]
  | .apply _ args => comparedVarsAll args
  | .function args result => comparedVarsAll args ++ result.comparedVars
  | .tuple items => comparedVarsAll items
  | .record fields _ => comparedVarsFields fields

def comparedVarsAll : List Ty → List Text
  | [] => []
  | t :: ts => t.comparedVars ++ comparedVarsAll ts

def comparedVarsFields : List (Text × Ty) → List Text
  | [] => []
  | (_, t) :: fields => t.comparedVars ++ comparedVarsFields fields

end

theorem comparedVarsAll_eq_flatMap : ∀ ts : List Ty, comparedVarsAll ts = ts.flatMap comparedVars
  | [] => rfl
  | t :: ts => by simp [comparedVarsAll, comparedVarsAll_eq_flatMap ts]

theorem comparedVarsFields_eq_flatMap : ∀ fields : List (Text × Ty),
    comparedVarsFields fields = fields.flatMap fun f => f.2.comparedVars
  | [] => rfl
  | (_, _) :: fields => by simp [comparedVarsFields, comparedVarsFields_eq_flatMap fields]

/-- Two renamings of a type are alike exactly if they agree on the compared variables. -/
theorem alike_rename_iff {f g : Text → Text} {t : Ty} (hd : DistinctFields t) :
    Alike (t.rename f) (t.rename g) ↔ ∀ x ∈ t.comparedVars, f x = g x := by
  induction hd with
  | var => simp [rename, alike_var_iff, comparedVars]
  | apply _ ih =>
    simp only [rename, renameAll_eq_map, alike_apply_iff, alike_zip_map_iff, comparedVars,
      comparedVarsAll_eq_flatMap, List.forall_mem_flatMap, List.length_map, true_and]
    exact forall₂_congr ih
  | function _ _ ih ihr =>
    simp only [rename, renameAll_eq_map, alike_function_iff, alike_zip_map_iff, comparedVars,
      comparedVarsAll_eq_flatMap, List.forall_mem_flatMap, List.forall_mem_append,
      List.length_map, true_and, ihr]
    exact and_congr_left fun _ => forall₂_congr ih
  | tuple _ ih =>
    simp only [rename, renameAll_eq_map, alike_tuple_iff, alike_zip_map_iff, comparedVars,
      comparedVarsAll_eq_flatMap, List.forall_mem_flatMap, List.length_map, true_and]
    exact forall₂_congr ih
  | record hd _ ih =>
    simp only [rename, renameFields_eq_map, comparedVars, comparedVarsFields_eq_flatMap,
      List.forall_mem_flatMap]
    rw [alike_record_map_iff hd (rename f) (rename g)]
    exact forall₂_congr ih

theorem alike_self {t : Ty} (hd : DistinctFields t) : Alike t t := by
  have h := (alike_rename_iff (f := id) (g := id) hd).mpr fun _ _ => rfl
  rwa [rename_id] at h

theorem DistinctFields.rename {t : Ty} (h : DistinctFields t) (f : Text → Text) :
    DistinctFields (t.rename f) := by
  induction h with
  | var => exact .var
  | apply _ ih =>
    rw [Ty.rename, renameAll_eq_map]
    exact .apply (List.forall_mem_map.mpr ih)
  | function _ _ ih ihr =>
    rw [Ty.rename, renameAll_eq_map]
    exact .function (List.forall_mem_map.mpr ih) ihr
  | tuple _ ih =>
    rw [Ty.rename, renameAll_eq_map]
    exact .tuple (List.forall_mem_map.mpr ih)
  | record hd _ ih =>
    rw [Ty.rename, renameFields_eq_map]
    refine .record ?_ (List.forall_mem_map.mpr ih)
    rw [List.map_map]
    exact hd

/-- A type is alike to the one it was merged from only if there was nothing to merge. -/
theorem alike_flat_iff {levels : Nat} {t : Ty} (h : WellFormed levels t) (hd : DistinctFields t) :
    Alike t.flat t ↔ Uncurried t := by
  refine ⟨fun halike => ?_, fun huncurried => ?_⟩
  · have hparts : ∀ {ts : List Ty}, (∀ p ∈ (ts.map flat).zip ts, Alike p.1 p.2) →
        ∀ t ∈ ts, Alike t.flat t := by
      intro ts h
      have hmap := alike_zip_map_iff flat id ts
      rw [List.map_id] at hmap
      exact hmap.mp h
    induction h with
    | var => exact .var
    | apply _ _ _ ih =>
      cases hd with
      | apply hd =>
        rw [flat, flatAll_eq_map, alike_apply_iff] at halike
        exact .apply fun a ha => ih a ha (hd a ha) (hparts halike.2.2 a ha)
    | @function levels args result hne hs hr ih ihr =>
      cases hd with
      | function hd hdr =>
        rw [flat, flatAll_eq_map] at halike
        cases hresult : result.flat with
        | function more last =>
          have hmore : WellFormed (levels + 1) (.function more last) := hresult ▸ hr.flat
          rw [hresult, merge, alike_function_iff, List.length_append, List.length_map] at halike
          cases hmore with
          | function hne' _ _ =>
            have hpos := List.length_pos_iff.mpr hne'
            omega
        | _ =>
          have hf : result.isFunction = false := by
            rw [← isFunction_flat, hresult]
            rfl
          rw [hresult, merge, alike_function_iff] at halike
          · exact .function (fun a ha => ih a ha (hd a ha) (hparts halike.2.1 a ha))
              (ihr hdr (hresult ▸ halike.2.2)) hf
          · simp
    | tuple _ _ ih =>
      cases hd with
      | tuple hd =>
        rw [flat, flatAll_eq_map, alike_tuple_iff] at halike
        exact .tuple fun i hi => ih i hi (hd i hi) (hparts halike.2 i hi)
    | @record _ _ base _ _ _ ih =>
      cases hd with
      | record hdistinct hd =>
        rw [flat, flatFields_eq_map] at halike
        have hmap := alike_record_map_iff hdistinct flat id base base
        simp only [id_eq, Prod.mk.eta, List.map_id'] at hmap
        exact .record fun f hf => ih f hf (hd f hf) (hmap.mp halike f hf)
  · rw [flat_eq_of_uncurried huncurried]
    exact alike_self hd

end DocIndex.Ty
