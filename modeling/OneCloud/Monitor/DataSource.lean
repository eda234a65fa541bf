import OneCloud.Monitor.FanIn
import OneCloud.Monitor.SuggestSysRule
import OneCloud.GoText
import Mathlib.Data.List.GetD

/-
This file models the measurement queries of the monitor's data source: the time filter of
`getFromAndToFromParam` and `renderTimeFilter`, the tag filters, the per-query goroutines of
`getFilterMeasurementsAsyn` and `GetMetricMeasurement`, the collectors that merge their
answers with `union` and `tagValUnion`, and the sequential `getfilterMeasurementsSyn`.
-/

namespace OneCloud.Monitor

open GoText

/-- An error of the data-source requests, by where it was made. -/
inductive DataSourceError where
  | influx (msg : String)
  | wrap (cause : DataSourceError) (msg : String)
  | message (msg : String)
  | inputParameter (msg : String)
  deriving DecidableEq, Repr

/-- One series of an InfluxDB result: its name and its tags. -/
structure Series where
  name : String
  tags : List (String × String)
  deriving DecidableEq, Repr

/-- Modelled from the spec: the fields of `monitor.InfluxMeasurement` these requests use. -/
structure InfluxMeasurement where
  database : String
  measurement : String
  tagKey : List String
  fieldKey : List String
  tagValue : List (String × List String)
  deriving DecidableEq, Repr, Inhabited

/-- `m[key] = value` on a Go map held as its list of entries. -/
def setEntry (m : List (String × List String)) (key : String) (value : List String) :
    List (String × List String) :=
  (key, value) :: m.filter (·.1 != key)

/-- The first series of the first result of a query, as `rtn[0][0]` reads it. -/
def firstSeries : List (List Series) → Option Series
  | (series :: _) :: _ => some series
  | _ => none

/-! ### The time filter -/

/-- The `From` and `To` of the `monitor.AlertQuery` that `getFromAndToFromParam` builds. -/
structure TimeFilter where
  fromTime : String
  toTime : String
  deriving DecidableEq, Repr

/-- This is `getFromAndToFromParam`, which reads the start from the key `form`. -/
def getFromAndToFromParam (validateFromAndToValue : TimeFilter → Option DataSourceError)
    (query : String → String) : Except DataSourceError TimeFilter :=
  let fromTime := if (query "form").length = 0 then "6h" else query "form"
  let toTime := if (query "to").length = 0 then "now" else query "to"
  match validateFromAndToValue ⟨fromTime, toTime⟩ with
  | some err => .error err
  | none => .ok ⟨fromTime, toTime⟩

/-- This is `renderTimeFilter`. -/
def renderTimeFilter (fromTime toTime : String) : String :=
  let fromTime := if contains fromTime "now-" then "now() - " ++ replaceFirst fromTime "now-" ""
    else "now() - " ++ fromTime
  let tmp := if toTime ≠ "now" ∧ toTime ≠ "" then " and time < now() - " ++ replaceFirst toTime "now-" "" else ""
  "time > " ++ fromTime ++ tmp

/-! ### The tag filters -/

/-- `filterKey`. -/
def filterKey : List String := ["perf_instance", "res_type", "status", "cloudregion", "os_type", "is_vm"]

/-- This is `filterTagKey`. -/
def filterTagKey (key : String) : Bool :=
  contains key "_id" || filterKey.contains key

/-- `\w` of Go's `regexp`: an ASCII letter or digit, or `_`. -/
def isWordChar (c : Char) : Bool := c.isAlphanum || c == '_'

/-- `\w{n}` at the start of a text, and the rest. -/
def wordRun : Nat → List Char → Option (List Char)
  | 0, rest => some rest
  | _ + 1, [] => none
  | n + 1, c :: rest => if isWordChar c then wordRun n rest else none

/-- `-\w{n}` at the start of a text, and the rest. -/
def dashRun (n : Nat) : List Char → Option (List Char)
  | '-' :: rest => wordRun n rest
  | _ => none

/-- The pattern `\w{8}(-\w{4}){3}-\w{12}` at the start of a text. -/
def uuidPrefix (text : List Char) : Bool :=
  (wordRun 8 text >>= dashRun 4 >>= dashRun 4 >>= dashRun 4 >>= dashRun 12).isSome

/-- This is `filterTagValue`: `compile.MatchString`, a match of the pattern anywhere in
`val`. -/
def filterTagValue (val : String) : Bool :=
  val.data.tails.any uuidPrefix

/-! ### The collectors -/

/-- This is `union`, which counts only `slice1` and so may append a value twice. -/
def union (slice1 slice2 : List String) : List String :=
  slice2.foldl (fun appended v => if slice1.count v = 0 then appended ++ [v] else appended) slice1

/-- One tag of `tagValUnion`'s loop. -/
def tagValUnionStep (rtn : List (String × List String)) (measurement : InfluxMeasurement) (tag : String) :
    InfluxMeasurement :=
  match rtn.lookup tag with
  | none => measurement
  | some rtnTagVal =>
      match measurement.tagValue.lookup tag with
      | none => { measurement with tagValue := setEntry measurement.tagValue tag rtnTagVal }
      | some tagVal => { measurement with tagValue := setEntry measurement.tagValue tag (union tagVal rtnTagVal) }

/-- This is `tagValUnion`. -/
def tagValUnion (measurement : InfluxMeasurement) (rtn : List (String × List String)) : InfluxMeasurement :=
  measurement.tagKey.foldl (tagValUnionStep rtn) measurement

/-! ### The producers -/

/-- The query text of `getFilterMeasurement`. -/
def countQuery (measurement filter : String) : String :=
  "select count(*::field) from " ++ measurement ++ " where " ++ filter ++ " "

/-- This is `getFilterMeasurement`, up to its send. -/
def getFilterMeasurement (db : String → Except DataSourceError (List (List Series))) (fromTime toTime : String)
    (measurement : InfluxMeasurement) : Except DataSourceError InfluxMeasurement :=
  match db (countQuery measurement.measurement (renderTimeFilter fromTime toTime)) with
  | .error err => .error (.wrap err "getFilterMeasurement error")
  | .ok rtn => .ok { (default : InfluxMeasurement) with measurement := ((firstSeries rtn).map Series.name).getD "" }

/-- One tag of one series, as the loop of `getFilterMeasurementTagValue` takes it into
`tagValMap`. -/
def addTagValue (tagKey : List String) (tagValMap : List (String × List String)) (key valStr : String) :
    List (String × List String) :=
  if valStr.length = 0 ∨ valStr = "null" ∨ filterTagValue valStr = true then tagValMap
  else if key ∉ tagKey then tagValMap
  else
    match tagValMap.lookup key with
    | some valArr => if valStr ∈ valArr then tagValMap else setEntry tagValMap key (valArr ++ [valStr])
    | none => setEntry tagValMap key [valStr]

/-- The loops of `getFilterMeasurementTagValue` over the results, their series and their
tags. -/
def collectTagValues (tagKey : List String) (rtn : List (List Series)) : List (String × List String) :=
  match firstSeries rtn with
  | none => []
  | some _ =>
      rtn.foldl (fun tagValMap result => result.foldl (fun tagValMap series =>
        series.tags.foldl (fun tagValMap tag => addTagValue tagKey tagValMap tag.1 tag.2) tagValMap) tagValMap) []

/-- The query text of `getFilterMeasurementTagValue`. -/
def tagValueQuery (field measurement filter : String) : String :=
  "SELECT mean(\"" ++ field ++ "\") FROM \"" ++ measurement ++ "\" WHERE " ++ filter ++
    "  GROUP BY * ,time(1m) fill(none)"

/-- This is `getFilterMeasurementTagValue`, up to its send. -/
def getFilterMeasurementTagValue (db : String → Except DataSourceError (List (List Series)))
    (fromTime toTime field : String) (measurement : InfluxMeasurement) :
    Except DataSourceError (List (String × List String)) :=
  match db (tagValueQuery field measurement.measurement (renderTimeFilter fromTime toTime)) with
  | .error err => .error (.wrap err "getFilterMeasurementTagValue query error")
  | .ok rtn => .ok (collectTagValues measurement.tagKey rtn)

/-! ### The fan-ins -/

/-- The collector of `getFilterMeasurementsAsyn`: an answer naming a measurement is appended. -/
def collectMeasurement (filterMeasurements : List InfluxMeasurement) (filterMeasurement : InfluxMeasurement) :
    List InfluxMeasurement :=
  if filterMeasurement.measurement.length ≠ 0 then filterMeasurements ++ [filterMeasurement] else filterMeasurements

/-- The collector of `GetMetricMeasurement`: a non-empty answer is merged with `tagValUnion`. -/
def collectTagVal (output : InfluxMeasurement) (tagVal : List (String × List String)) : InfluxMeasurement :=
  if tagVal.length ≠ 0 then tagValUnion output tagVal else output

/-- The goroutines of `getFilterMeasurementsAsyn`. -/
def measurementFanIn (db : String → Except DataSourceError (List (List Series))) (fromTime toTime : String)
    (measurements : List InfluxMeasurement) :
    FanInSpec DataSourceError InfluxMeasurement (List InfluxMeasurement) where
  count := measurements.length
  outcome i := getFilterMeasurement db fromTime toTime (measurements.getD i default)
  collect := collectMeasurement
  timeoutError := .message "filter measurement time out"

/-- The goroutines of `GetMetricMeasurement`. -/
def tagValueFanIn (db : String → Except DataSourceError (List (List Series))) (timeF : TimeFilter)
    (output : InfluxMeasurement) :
    FanInSpec DataSourceError (List (String × List String)) InfluxMeasurement where
  count := output.fieldKey.length
  outcome i := getFilterMeasurementTagValue db timeF.fromTime timeF.toTime (output.fieldKey.getD i "") output
  collect := collectTagVal
  timeoutError := .message "filter getFilterMeasurementTagValue time out"

/-- The query text of `getfilterMeasurementsSyn` for one measurement. -/
def selectQuery (measurement filter : String) : String :=
  "select *::field from " ++ measurement ++ " where " ++ filter ++ " "

/-- This is `getfilterMeasurementsSyn`, which runs one query for every measurement. -/
def getfilterMeasurementsSyn (db : String → Except DataSourceError (List (List Series))) (fromTime toTime : String)
    (measurements : List InfluxMeasurement) : Except DataSourceError (List InfluxMeasurement) :=
  let buffer := String.join (measurements.map fun measurement =>
    selectQuery measurement.measurement (renderTimeFilter fromTime toTime) ++ ";")
  if buffer.length = 0 then .ok measurements
  else
    match db buffer with
    | .error err => .error err
    | .ok rtn => .ok (rtn.filterMap fun result =>
        result.head?.map fun series => { (default : InfluxMeasurement) with measurement := series.name })

/-! ### What the collectors build -/

theorem foldl_union (slice1 : List String) :
    ∀ (slice2 appended : List String), slice2.foldl (fun appended v => if slice1.count v = 0 then appended ++ [v]
      else appended) appended = appended ++ slice2.filter fun v => slice1.count v = 0
  | [], appended => by simp
  | v :: rest, appended => by
      rw [List.foldl_cons, foldl_union slice1 rest, List.filter_cons]
      by_cases absent : slice1.count v = 0 <;> simp [absent]

theorem union_eq (slice1 slice2 : List String) :
    union slice1 slice2 = slice1 ++ slice2.filter fun v => slice1.count v = 0 :=
  foldl_union slice1 slice2 slice1

@[simp] theorem mem_union {slice1 slice2 : List String} {v : String} : v ∈ union slice1 slice2 ↔ v ∈ slice1 ∨ v ∈ slice2 := by
  rw [union_eq, List.mem_append, List.mem_filter]
  by_cases held : v ∈ slice1 <;> simp [held, List.count_eq_zero]

/-- `union` adds no value twice, as long as `slice2` holds none twice. -/
theorem nodup_union {slice1 slice2 : List String} (first : slice1.Nodup) (second : slice2.Nodup) :
    (union slice1 slice2).Nodup := by
  rw [union_eq, List.nodup_append]
  refine ⟨first, second.filter _, fun v held added => ?_⟩
  simp only [List.mem_filter, decide_eq_true_eq, List.count_eq_zero] at added
  exact added.2 held

theorem union_of_subset {slice1 slice2 : List String} (covered : ∀ v ∈ slice2, v ∈ slice1) :
    union slice1 slice2 = slice1 := by
  rw [union_eq, List.filter_eq_nil_iff.mpr fun v member => by simpa [List.count_eq_zero] using covered v member,
    List.append_nil]

@[simp] theorem lookup_setEntry (m : List (String × List String)) (key other : String) (value : List String) :
    (setEntry m key value).lookup other = if other = key then some value else m.lookup other := by
  by_cases same : other = key
  · subst same
    simp [setEntry]
  · rw [setEntry, CronJobManager.lookup_cons_ne _ _ same, CronJobManager.lookup_filter_ne, if_neg same, if_neg same]

/-- Merging one answer into one tag's values: as they are first, then through `union`. -/
def mergeTagValues : Option (List String) → Option (List String) → Option (List String)
  | tagVal, none => tagVal
  | none, some rtnTagVal => some rtnTagVal
  | some tagVal, some rtnTagVal => some (union tagVal rtnTagVal)

theorem mergeTagValues_idem (tagVal rtnTagVal : Option (List String)) :
    mergeTagValues (mergeTagValues tagVal rtnTagVal) rtnTagVal = mergeTagValues tagVal rtnTagVal := by
  rcases tagVal with _ | tagVal <;> rcases rtnTagVal with _ | rtnTagVal <;> simp only [mergeTagValues]
  · rw [union_of_subset fun _ member => member]
  · rw [union_of_subset fun _ member => mem_union.mpr (.inr member)]

theorem tagValUnionStep_tagKey (rtn : List (String × List String)) (measurement : InfluxMeasurement) (tag : String) :
    (tagValUnionStep rtn measurement tag).tagKey = measurement.tagKey := by
  unfold tagValUnionStep
  split
  · rfl
  · split <;> rfl

theorem tagValUnionStep_lookup (rtn : List (String × List String)) (measurement : InfluxMeasurement)
    (tag other : String) : (tagValUnionStep rtn measurement tag).tagValue.lookup other =
      if other = tag then mergeTagValues (measurement.tagValue.lookup other) (rtn.lookup other)
      else measurement.tagValue.lookup other := by
  unfold tagValUnionStep
  by_cases same : other = tag
  · subst same
    split <;> rename_i answer
    · simp [answer, mergeTagValues]
    · split <;> rename_i held <;> simp [answer, held, mergeTagValues]
  · split
    · simp [same]
    · split <;> simp [same]

theorem foldl_tagValUnionStep (rtn : List (String × List String)) (other : String) :
    ∀ (keys : List String) (measurement : InfluxMeasurement),
      (keys.foldl (tagValUnionStep rtn) measurement).tagKey = measurement.tagKey ∧
        (keys.foldl (tagValUnionStep rtn) measurement).tagValue.lookup other =
          if other ∈ keys then mergeTagValues (measurement.tagValue.lookup other) (rtn.lookup other)
          else measurement.tagValue.lookup other
  | [], measurement => ⟨rfl, by simp⟩
  | tag :: keys, measurement => by
      obtain ⟨sameKeys, merged⟩ := foldl_tagValUnionStep rtn other keys (tagValUnionStep rtn measurement tag)
      refine ⟨sameKeys.trans (tagValUnionStep_tagKey rtn measurement tag), ?_⟩
      rw [List.foldl_cons, merged, tagValUnionStep_lookup]
      by_cases same : other = tag
      · subst same
        split <;> simp [mergeTagValues_idem]
      · simp [same]

/-- `tagValUnion` merges the answer once into each tag key, and nothing else. -/
theorem tagValUnion_lookup (measurement : InfluxMeasurement) (rtn : List (String × List String)) (other : String) :
    (tagValUnion measurement rtn).tagKey = measurement.tagKey ∧
      (tagValUnion measurement rtn).tagValue.lookup other =
        if other ∈ measurement.tagKey then mergeTagValues (measurement.tagValue.lookup other) (rtn.lookup other)
        else measurement.tagValue.lookup other :=
  foldl_tagValUnionStep rtn other measurement.tagKey measurement

theorem mem_mergeTagValues {tagVal rtnTagVal : Option (List String)} {v : String} :
    v ∈ (mergeTagValues tagVal rtnTagVal).getD [] ↔ v ∈ tagVal.getD [] ∨ v ∈ rtnTagVal.getD [] := by
  rcases tagVal with _ | tagVal <;> rcases rtnTagVal with _ | rtnTagVal <;> simp [mergeTagValues]

theorem mem_foldl_mergeTagValues (v : String) :
    ∀ (answers : List (Option (List String))) (tagVal : Option (List String)),
      v ∈ (answers.foldl mergeTagValues tagVal).getD [] ↔ v ∈ tagVal.getD [] ∨ ∃ answer ∈ answers, v ∈ answer.getD []
  | [], tagVal => by simp
  | answer :: answers, tagVal => by
      rw [List.foldl_cons, mem_foldl_mergeTagValues v answers, mem_mergeTagValues]
      simp only [List.mem_cons, exists_eq_or_imp, or_assoc]

theorem nodup_foldl_mergeTagValues :
    ∀ (answers : List (Option (List String))) (tagVal : Option (List String)),
      (∀ vals ∈ tagVal, vals.Nodup) → (∀ answer ∈ answers, ∀ vals ∈ answer, vals.Nodup) →
        ∀ vals ∈ answers.foldl mergeTagValues tagVal, vals.Nodup
  | [], _, first, _ => first
  | answer :: answers, tagVal, first, rest => by
      refine nodup_foldl_mergeTagValues answers _ ?_ fun later member => rest later (List.mem_cons_of_mem _ member)
      have here := rest answer (List.mem_cons_self _ _)
      rcases tagVal with _ | tagVal <;> rcases answer with _ | answer
      · exact first
      · exact here
      · exact first
      · rintro vals ⟨⟩
        exact nodup_union (first _ rfl) (here _ rfl)

theorem collectTagVal_lookup (output : InfluxMeasurement) (tagVal : List (String × List String)) (other : String) :
    (collectTagVal output tagVal).tagKey = output.tagKey ∧
      (collectTagVal output tagVal).tagValue.lookup other =
        if other ∈ output.tagKey then mergeTagValues (output.tagValue.lookup other) (tagVal.lookup other)
        else output.tagValue.lookup other := by
  unfold collectTagVal
  split
  · exact tagValUnion_lookup output tagVal other
  · rename_i empty
    rw [List.eq_nil_of_length_eq_zero (not_not.mp empty)]
    exact ⟨rfl, by split <;> simp [mergeTagValues]⟩

/-- The collector merges each tag's answers in arrival order, and nothing else. -/
theorem foldl_collectTagVal (other : String) :
    ∀ (answers : List (List (String × List String))) (output : InfluxMeasurement),
      (answers.foldl collectTagVal output).tagKey = output.tagKey ∧
        (answers.foldl collectTagVal output).tagValue.lookup other =
          if other ∈ output.tagKey then (answers.map (·.lookup other)).foldl mergeTagValues (output.tagValue.lookup other)
          else output.tagValue.lookup other
  | [], output => ⟨rfl, by split <;> rfl⟩
  | answer :: answers, output => by
      obtain ⟨sameKeys, step⟩ := collectTagVal_lookup output answer other
      obtain ⟨laterKeys, later⟩ := foldl_collectTagVal other answers (collectTagVal output answer)
      refine ⟨laterKeys.trans sameKeys, ?_⟩
      rw [List.foldl_cons, later, sameKeys, step]
      split <;> rfl

/-! ### What a producer sends -/

/-- A tag value that `getFilterMeasurementTagValue` keeps. -/
def KeptTagValue (v : String) : Prop :=
  v.length ≠ 0 ∧ v ≠ "null" ∧ filterTagValue v = false

/-- A tag-value map holding each kept value seen so far once, and nothing else. -/
def CollectedFrom (tagKey : List String) (seen : List (String × String)) (m : List (String × List String)) : Prop :=
  ∀ t, (∀ vals ∈ m.lookup t, vals.Nodup) ∧
    ∀ v, v ∈ (m.lookup t).getD [] ↔ t ∈ tagKey ∧ KeptTagValue v ∧ (t, v) ∈ seen

theorem collectedFrom_nil (tagKey : List String) : CollectedFrom tagKey [] [] := fun _ => ⟨by simp, by simp⟩

theorem mem_append_pair {seen : List (String × String)} {t v key valStr : String} :
    (t, v) ∈ seen ++ [(key, valStr)] ↔ (t, v) ∈ seen ∨ (t = key ∧ v = valStr) := by
  simp

/-- A tag that is not taken leaves the map as the tags before it made it. -/
theorem CollectedFrom.skip {tagKey : List String} {seen : List (String × String)}
    {m : List (String × List String)} (holds : CollectedFrom tagKey seen m) {key valStr : String}
    (skipped : ¬ (key ∈ tagKey ∧ KeptTagValue valStr)) : CollectedFrom tagKey (seen ++ [(key, valStr)]) m := by
  intro t
  refine ⟨(holds t).1, fun v => ?_⟩
  rw [(holds t).2, mem_append_pair]
  constructor
  · exact fun ⟨inKeys, kept, held⟩ => ⟨inKeys, kept, .inl held⟩
  · rintro ⟨inKeys, kept, held | ⟨rfl, rfl⟩⟩
    exacts [⟨inKeys, kept, held⟩, absurd ⟨inKeys, kept⟩ skipped]

/-- A tag that is taken joins its key's values, once. -/
theorem CollectedFrom.take {tagKey : List String} {seen : List (String × String)}
    {m m' : List (String × List String)} (holds : CollectedFrom tagKey seen m) {key valStr : String}
    (inKeys : key ∈ tagKey) (kept : KeptTagValue valStr)
    (updated : m'.lookup key = some (if valStr ∈ (m.lookup key).getD [] then (m.lookup key).getD []
      else (m.lookup key).getD [] ++ [valStr]))
    (others : ∀ t, t ≠ key → m'.lookup t = m.lookup t) : CollectedFrom tagKey (seen ++ [(key, valStr)]) m' := by
  intro t
  by_cases same : t = key
  · subst same
    obtain ⟨nodup, members⟩ := holds t
    have before : ((m.lookup t).getD []).Nodup := by
      cases found : m.lookup t with
      | none => exact List.nodup_nil
      | some vals => exact nodup vals found
    refine ⟨fun vals found => ?_, fun v => ?_⟩
    · rw [updated, Option.mem_def, Option.some_inj] at found
      subst found
      split_ifs with present
      exacts [before, before.append (List.nodup_singleton _) (List.disjoint_singleton.mpr present)]
    · have grown : v ∈ (if valStr ∈ (m.lookup t).getD [] then (m.lookup t).getD [] else (m.lookup t).getD [] ++ [valStr]) ↔
          v ∈ (m.lookup t).getD [] ∨ v = valStr := by
        split_ifs with present
        · exact ⟨.inl, fun held => held.elim id fun same => same ▸ present⟩
        · simp
      rw [updated, Option.getD_some, grown, members, mem_append_pair]
      constructor
      · rintro (⟨_, keptV, held⟩ | rfl)
        exacts [⟨inKeys, keptV, .inl held⟩, ⟨inKeys, kept, .inr ⟨rfl, rfl⟩⟩]
      · rintro ⟨_, keptV, held | ⟨-, rfl⟩⟩
        exacts [.inl ⟨inKeys, keptV, held⟩, .inr rfl]
  · obtain ⟨nodup, members⟩ := holds t
    refine ⟨(others t same).symm ▸ nodup, fun v => ?_⟩
    rw [others t same, members, mem_append_pair]
    exact ⟨fun ⟨inKeys, kept, held⟩ => ⟨inKeys, kept, .inl held⟩,
      fun ⟨inKeys, kept, held⟩ => ⟨inKeys, kept, held.resolve_right fun pair => same pair.1⟩⟩

theorem CollectedFrom.add {tagKey : List String} {seen : List (String × String)}
    {m : List (String × List String)} (holds : CollectedFrom tagKey seen m) (key valStr : String) :
    CollectedFrom tagKey (seen ++ [(key, valStr)]) (addTagValue tagKey m key valStr) := by
  unfold addTagValue
  by_cases dropped : valStr.length = 0 ∨ valStr = "null" ∨ filterTagValue valStr = true
  · rw [if_pos dropped]
    refine holds.skip fun ⟨_, kept⟩ => ?_
    rcases dropped with empty | null | matched
    exacts [kept.1 empty, kept.2.1 null, by simp [kept.2.2] at matched]
  rw [if_neg dropped]
  have kept : KeptTagValue valStr := by simpa [KeptTagValue, not_or] using dropped
  by_cases unknown : key ∉ tagKey
  · rw [if_pos unknown]
    exact holds.skip fun ⟨inKeys, _⟩ => unknown inKeys
  rw [if_neg unknown]
  have inKeys := not_not.mp unknown
  cases found : m.lookup key with
  | none =>
      exact holds.take inKeys kept (by simp [found]) fun t differs => by simp [differs]
  | some valArr =>
      dsimp only
      split_ifs with present
      · exact holds.take inKeys kept (by simp [found, present]) fun _ _ => rfl
      · exact holds.take inKeys kept (by simp [found, present]) fun t differs => by simp [differs]

theorem CollectedFrom.foldl_tags {tagKey : List String} :
    ∀ (tags : List (String × String)) {seen : List (String × String)} {m : List (String × List String)},
      CollectedFrom tagKey seen m →
        CollectedFrom tagKey (seen ++ tags) (tags.foldl (fun m tag => addTagValue tagKey m tag.1 tag.2) m)
  | [], _, _, holds => by simpa using holds
  | tag :: tags, _, _, holds => by
      simpa using CollectedFrom.foldl_tags tags (holds.add tag.1 tag.2)

theorem CollectedFrom.foldl_series {tagKey : List String} :
    ∀ (result : List Series) {seen : List (String × String)} {m : List (String × List String)},
      CollectedFrom tagKey seen m →
        CollectedFrom tagKey (seen ++ result.flatMap Series.tags) (result.foldl (fun m series =>
          series.tags.foldl (fun m tag => addTagValue tagKey m tag.1 tag.2) m) m)
  | [], _, _, holds => by simpa using holds
  | series :: result, _, _, holds => by
      simpa using CollectedFrom.foldl_series result (CollectedFrom.foldl_tags series.tags holds)

theorem CollectedFrom.foldl_results {tagKey : List String} :
    ∀ (rtn : List (List Series)) {seen : List (String × String)} {m : List (String × List String)},
      CollectedFrom tagKey seen m →
        CollectedFrom tagKey (seen ++ rtn.flatMap fun result => result.flatMap Series.tags)
          (rtn.foldl (fun m result => result.foldl (fun m series =>
            series.tags.foldl (fun m tag => addTagValue tagKey m tag.1 tag.2) m) m) m)
  | [], _, _, holds => by simpa using holds
  | result :: rtn, _, _, holds => by
      simpa using CollectedFrom.foldl_results rtn (CollectedFrom.foldl_series result holds)

/-- The tags of every series of every result, where the first result has a series. -/
def seenTags (rtn : List (List Series)) : List (String × String) :=
  match firstSeries rtn with
  | none => []
  | some _ => rtn.flatMap fun result => result.flatMap Series.tags

/-- A producer of `GetMetricMeasurement` sends each kept value of its tags once. -/
theorem collectTagValues_collected (tagKey : List String) (rtn : List (List Series)) :
    CollectedFrom tagKey (seenTags rtn) (collectTagValues tagKey rtn) := by
  unfold collectTagValues seenTags
  split
  · exact collectedFrom_nil tagKey
  · simpa using CollectedFrom.foldl_results rtn (collectedFrom_nil tagKey)

/-! ### What every interleaving delivers -/

theorem filterMap_range_getD {β γ : Type} (d : β) (l : List β) (f : β → Option γ) :
    (List.range l.length).filterMap (fun i => f (l.getD i d)) = l.filterMap f := by
  have indexed : (List.range l.length).map (fun i => l.getD i d) = l := by
    apply List.ext_getElem (by simp)
    intro i _ below
    simp [List.getElem?_eq_getElem below]
  conv_rhs => rw [← indexed, List.filterMap_map]
  rfl

theorem exists_getD_of_mem {β : Type} (d : β) {l : List β} {x : β} (member : x ∈ l) :
    ∃ i < l.length, l.getD i d = x := by
  obtain ⟨i, below, rfl⟩ := List.getElem_of_mem member
  exact ⟨i, below, by simp [List.getElem?_eq_getElem below]⟩

theorem getD_mem_of_lt {β : Type} (d : β) {l : List β} {i : Nat} (below : i < l.length) : l.getD i d ∈ l := by
  simp only [List.getD_eq_getElem?_getD, List.getElem?_eq_getElem below, Option.getD_some]
  exact List.getElem_mem below

theorem foldl_collectMeasurement :
    ∀ (got filterMeasurements : List InfluxMeasurement),
      got.foldl collectMeasurement filterMeasurements =
        filterMeasurements ++ got.filter fun filterMeasurement => filterMeasurement.measurement.length ≠ 0
  | [], filterMeasurements => by simp
  | filterMeasurement :: got, filterMeasurements => by
      rw [List.foldl_cons, foldl_collectMeasurement, List.filter_cons]
      unfold collectMeasurement
      split <;> simp [*]

theorem measurementFanIn_failure {db : String → Except DataSourceError (List (List Series))} {fromTime toTime : String}
    {measurements : List InfluxMeasurement} {i : Nat} {err : DataSourceError}
    (failed : getFilterMeasurement db fromTime toTime (measurements.getD i default) = .error err) :
    (measurementFanIn db fromTime toTime measurements).failure i = some err := by
  simp only [FanInSpec.failure, measurementFanIn, failed]

/-- When `getFilterMeasurementsAsyn` waits with no error, it returns every answer once, in arrival order. -/
theorem getFilterMeasurementsAsyn_finished_ok {db : String → Except DataSourceError (List (List Series))}
    {fromTime toTime : String} {measurements : List InfluxMeasurement}
    {s : FanIn DataSourceError InfluxMeasurement (List InfluxMeasurement)}
    (reached : FanIn.Reachable (measurementFanIn db fromTime toTime measurements) [] s)
    (finished : FanIn.Finished (measurementFanIn db fromTime toTime measurements) s) (ok : s.errors = []) :
    (∀ measurement ∈ measurements, ∃ answer, getFilterMeasurement db fromTime toTime measurement = .ok answer) ∧
      s.acc.Perm ((measurements.filterMap fun measurement => (getFilterMeasurement db fromTime toTime measurement).toOption).filter
        fun filterMeasurement => filterMeasurement.measurement.length ≠ 0) := by
  obtain ⟨allSent, everyone⟩ := FanIn.finished_ok reached finished ok
  refine ⟨fun measurement listed => ?_, ?_⟩
  · obtain ⟨i, below, rfl⟩ := exists_getD_of_mem default listed
    obtain ⟨answer, sent⟩ := Option.isSome_iff_exists.mp (allSent i below)
    refine ⟨answer, ?_⟩
    revert sent
    simp only [FanInSpec.message, measurementFanIn]
    cases getFilterMeasurement db fromTime toTime (measurements.getD i default) <;> simp [Except.toOption]
  · rw [reached.inv.folded]
    change (s.got.foldl collectMeasurement []).Perm _
    rw [foldl_collectMeasurement, List.nil_append]
    refine everyone.filter _ |>.trans (List.Perm.of_eq ?_)
    exact congrArg (List.filter _) (filterMap_range_getD default measurements
      fun measurement => (getFilterMeasurement db fromTime toTime measurement).toOption)

/-- A database answering every query with one `cpu` series tagged with its host. -/
def cpuDb : String → Except DataSourceError (List (List Series)) := fun _ => .ok [[⟨"cpu", [("host", "a")]⟩]]

/-- A database whose every query fails. -/
def downDb : String → Except DataSourceError (List (List Series)) := fun _ => .error (.influx "timeout")

/-- The measurement `cpu`, with the tag key `host` and the field key `usage`. -/
def cpuMeasurement : InfluxMeasurement := ⟨"telegraf", "cpu", ["host"], ["usage"], []⟩

theorem getFilterMeasurementsAsyn_finished_ok_cpu :
    ∃ s, FanIn.Reachable (measurementFanIn cpuDb "6h" "now" [cpuMeasurement]) [] s ∧
      FanIn.Finished (measurementFanIn cpuDb "6h" "now" [cpuMeasurement]) s ∧ s.errors = [] ∧
      s.acc.Perm [{ (default : InfluxMeasurement) with measurement := "cpu" }] := by
  have reached := (FanIn.Reachable.start : FanIn.Reachable (measurementFanIn cpuDb "6h" "now" [cpuMeasurement]) [] _).step
      (.produce (i := 0) (by decide)) |>.step (.receive rfl (by decide) rfl)
  refine ⟨_, reached, ⟨rfl, .inl rfl⟩, rfl, ?_⟩
  exact (getFilterMeasurementsAsyn_finished_ok reached ⟨rfl, .inl rfl⟩ rfl).2

/-- A failed query of `getFilterMeasurementsAsyn` leaves `Wait` to return only at the deadline. -/
theorem getFilterMeasurementsAsyn_failed {db : String → Except DataSourceError (List (List Series))}
    {fromTime toTime : String} {measurements : List InfluxMeasurement}
    {s : FanIn DataSourceError InfluxMeasurement (List InfluxMeasurement)}
    (reached : FanIn.Reachable (measurementFanIn db fromTime toTime measurements) [] s)
    (finished : FanIn.Finished (measurementFanIn db fromTime toTime measurements) s)
    {measurement : InfluxMeasurement} (listed : measurement ∈ measurements) {err : DataSourceError}
    (failed : getFilterMeasurement db fromTime toTime measurement = .error err) :
    s.timedOut = true ∧ err ∈ s.errors ∧ DataSourceError.message "filter measurement time out" ∈ s.errors := by
  obtain ⟨i, below, rfl⟩ := exists_getD_of_mem default listed
  exact FanIn.finished_of_failure reached finished below (measurementFanIn_failure failed)

theorem getFilterMeasurementsAsyn_failed_down :
    ∃ s, FanIn.Reachable (measurementFanIn downDb "6h" "now" [cpuMeasurement]) [] s ∧
      FanIn.Finished (measurementFanIn downDb "6h" "now" [cpuMeasurement]) s ∧
      s.timedOut = true ∧ DataSourceError.wrap (.influx "timeout") "getFilterMeasurement error" ∈ s.errors ∧
      DataSourceError.message "filter measurement time out" ∈ s.errors := by
  have reached := (FanIn.Reachable.start : FanIn.Reachable (measurementFanIn downDb "6h" "now" [cpuMeasurement]) [] _).step
      (.produce (i := 0) (by decide)) |>.step .expire |>.step (.timeout rfl rfl (by decide))
  exact ⟨_, reached, ⟨rfl, .inr rfl⟩, getFilterMeasurementsAsyn_failed reached ⟨rfl, .inr rfl⟩ (List.mem_singleton_self _) rfl⟩

/-- When `GetMetricMeasurement` waits with no error, each tag holds its kept values once. -/
theorem getMetricMeasurement_finished_ok {db : String → Except DataSourceError (List (List Series))}
    {timeF : TimeFilter} {output : InfluxMeasurement} (fresh : output.tagValue = [])
    {s : FanIn DataSourceError (List (String × List String)) InfluxMeasurement}
    (reached : FanIn.Reachable (tagValueFanIn db timeF output) output s)
    (finished : FanIn.Finished (tagValueFanIn db timeF output) s) (ok : s.errors = []) (t : String) :
    (∀ vals ∈ s.acc.tagValue.lookup t, vals.Nodup) ∧
      ∀ v, v ∈ (s.acc.tagValue.lookup t).getD [] ↔ t ∈ output.tagKey ∧ KeptTagValue v ∧
        ∃ field ∈ output.fieldKey, ∃ rtn, db (tagValueQuery field output.measurement
          (renderTimeFilter timeF.fromTime timeF.toTime)) = .ok rtn ∧ (t, v) ∈ seenTags rtn := by
  obtain ⟨-, everyone⟩ := FanIn.finished_ok reached finished ok
  obtain ⟨-, merged⟩ := foldl_collectTagVal t s.got output
  have answered : ∀ answer ∈ s.got, ∃ field ∈ output.fieldKey, ∃ rtn, db (tagValueQuery field output.measurement
      (renderTimeFilter timeF.fromTime timeF.toTime)) = .ok rtn ∧ answer = collectTagValues output.tagKey rtn := by
    intro answer member
    obtain ⟨i, below, sent⟩ := List.mem_filterMap.mp (everyone.mem_iff.mp member)
    revert sent
    simp only [FanInSpec.message, tagValueFanIn, getFilterMeasurementTagValue]
    split <;> rename_i rtn queried <;> simp only [Except.toOption, Option.some.injEq, reduceCtorEq, false_implies]
    exact fun sent => ⟨_, getD_mem_of_lt _ (List.mem_range.mp below), rtn, queried, sent.symm⟩
  have collected : s.acc.tagValue.lookup t =
      if t ∈ output.tagKey then (s.got.map (·.lookup t)).foldl mergeTagValues none else none := by
    rw [reached.inv.folded]
    change (s.got.foldl collectTagVal output).tagValue.lookup t = _
    rw [merged, fresh]
    rfl
  rw [collected]
  split_ifs with inKeys
  · refine ⟨nodup_foldl_mergeTagValues _ none (by simp) fun answer member vals found => ?_, fun v => ?_⟩
    · obtain ⟨got, gotMember, rfl⟩ := List.mem_map.mp member
      obtain ⟨-, -, rtn, -, rfl⟩ := answered got gotMember
      exact ((collectTagValues_collected output.tagKey rtn) t).1 vals found
    rw [mem_foldl_mergeTagValues]
    simp only [Option.getD_none, List.not_mem_nil, false_or, List.mem_map, exists_exists_and_eq_and]
    constructor
    · rintro ⟨got, gotMember, held⟩
      obtain ⟨field, listed, rtn, queried, rfl⟩ := answered got gotMember
      obtain ⟨-, kept, seen⟩ := ((collectTagValues_collected output.tagKey rtn) t).2 v |>.mp held
      exact ⟨inKeys, kept, field, listed, rtn, queried, seen⟩
    · rintro ⟨-, kept, field, listed, rtn, queried, seen⟩
      obtain ⟨i, below, rfl⟩ := exists_getD_of_mem "" listed
      have sent : (tagValueFanIn db timeF output).message i = some (collectTagValues output.tagKey rtn) := by
        simp only [FanInSpec.message, tagValueFanIn, getFilterMeasurementTagValue, queried, Except.toOption]
      exact ⟨_, everyone.mem_iff.mpr (List.mem_filterMap.mpr ⟨i, List.mem_range.mpr below, sent⟩),
        ((collectTagValues_collected output.tagKey rtn) t).2 v |>.mpr ⟨inKeys, kept, seen⟩⟩
  · exact ⟨by simp, fun v => by simp [inKeys]⟩

theorem getMetricMeasurement_finished_ok_host :
    ∃ s, FanIn.Reachable (tagValueFanIn cpuDb ⟨"6h", "now"⟩ cpuMeasurement) cpuMeasurement s ∧
      FanIn.Finished (tagValueFanIn cpuDb ⟨"6h", "now"⟩ cpuMeasurement) s ∧ s.errors = [] ∧
      (∀ vals ∈ s.acc.tagValue.lookup "host", vals.Nodup) ∧
        ∀ v, v ∈ (s.acc.tagValue.lookup "host").getD [] ↔ "host" ∈ cpuMeasurement.tagKey ∧ KeptTagValue v ∧
          ∃ field ∈ cpuMeasurement.fieldKey, ∃ rtn, cpuDb (tagValueQuery field cpuMeasurement.measurement
            (renderTimeFilter "6h" "now")) = .ok rtn ∧ ("host", v) ∈ seenTags rtn := by
  have reached := (FanIn.Reachable.start :
      FanIn.Reachable (tagValueFanIn cpuDb ⟨"6h", "now"⟩ cpuMeasurement) cpuMeasurement _).step (.produce (i := 0) (by decide)) |>.step (.receive rfl (by decide) rfl)
  exact ⟨_, reached, ⟨rfl, .inl rfl⟩, rfl, getMetricMeasurement_finished_ok rfl reached ⟨rfl, .inl rfl⟩ rfl "host"⟩

/-- A failed query of `GetMetricMeasurement` leaves `Wait` to return only at the deadline. -/
theorem getMetricMeasurement_failed {db : String → Except DataSourceError (List (List Series))}
    {timeF : TimeFilter} {output : InfluxMeasurement}
    {s : FanIn DataSourceError (List (String × List String)) InfluxMeasurement}
    (reached : FanIn.Reachable (tagValueFanIn db timeF output) output s)
    (finished : FanIn.Finished (tagValueFanIn db timeF output) s) {field : String} (listed : field ∈ output.fieldKey)
    {err : DataSourceError} (failed : getFilterMeasurementTagValue db timeF.fromTime timeF.toTime field output = .error err) :
    s.timedOut = true ∧ err ∈ s.errors ∧
      DataSourceError.message "filter getFilterMeasurementTagValue time out" ∈ s.errors := by
  obtain ⟨i, below, rfl⟩ := exists_getD_of_mem "" listed
  have failure : (tagValueFanIn db timeF output).failure i = some err := by
    simp only [FanInSpec.failure, tagValueFanIn, failed]
  exact FanIn.finished_of_failure reached finished below failure

theorem getMetricMeasurement_failed_down :
    ∃ s, FanIn.Reachable (tagValueFanIn downDb ⟨"6h", "now"⟩ cpuMeasurement) cpuMeasurement s ∧
      FanIn.Finished (tagValueFanIn downDb ⟨"6h", "now"⟩ cpuMeasurement) s ∧
      s.timedOut = true ∧ DataSourceError.wrap (.influx "timeout") "getFilterMeasurementTagValue query error" ∈ s.errors ∧
      DataSourceError.message "filter getFilterMeasurementTagValue time out" ∈ s.errors := by
  have reached := (FanIn.Reachable.start :
      FanIn.Reachable (tagValueFanIn downDb ⟨"6h", "now"⟩ cpuMeasurement) cpuMeasurement _).step (.produce (i := 0) (by decide)) |>.step .expire |>.step (.timeout rfl rfl (by decide))
  exact ⟨_, reached, ⟨rfl, .inr rfl⟩, getMetricMeasurement_failed reached ⟨rfl, .inr rfl⟩ (List.mem_singleton_self _) rfl⟩

end OneCloud.Monitor
