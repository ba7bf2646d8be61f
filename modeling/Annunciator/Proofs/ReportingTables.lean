import Annunciator.ObjectTable
import Annunciator.Proofs.SortedMaps

/-!
# The reporting tables

Which tables report, and in which order. A stable sort followed by dropping repeats
leaves the first table of every type, in ascending order of types: `reporters_eq`
says so in one equation, and nothing after it has to look at the sort again.
-/

namespace Annunciator

/-- There is no other object type. -/
theorem ObjectType.mem_all (objectType : ObjectType) : objectType ∈ all := by
  cases objectType <;> decide

/-- The first table of a type is of this type. -/
theorem objectType_of_find? {tables : List PointTable} {table : PointTable}
    {objectType : ObjectType} (found : tables.find? (·.objectType = objectType) = some table) :
    table.objectType = objectType := by
  simpa using List.find?_some found

/-- Dropping repeats keeps the first table of a type, unless it is the type of a table
that came before. -/
theorem find?_dropRepeats {objectType : ObjectType} {previous : Option ObjectType}
    (differs : previous ≠ some objectType) (tables : List PointTable) :
    (dropRepeats previous tables).find? (·.objectType = objectType) =
      tables.find? (·.objectType = objectType) := by
  induction tables generalizing previous with
  | nil => rfl
  | cons table rest inductionHypothesis =>
      rw [dropRepeats]
      split
      · next repeated =>
          have other : table.objectType ≠ objectType :=
            fun same => differs (repeated.symm.trans (congrArg some same))
          rw [inductionHypothesis differs, List.find?_cons_of_neg (by simpa using other)]
      · by_cases here : table.objectType = objectType
        · rw [List.find?_cons_of_pos (by simpa using here),
            List.find?_cons_of_pos (by simpa using here)]
        · rw [List.find?_cons_of_neg (by simpa using here),
            List.find?_cons_of_neg (by simpa using here)]
          exact inductionHypothesis fun same => here (Option.some.inj same)

/-- In tables that are sorted by type, dropping repeats leaves every type once. -/
theorem pairwise_dropRepeats {previous : Option ObjectType} {tables : List PointTable}
    (sorted : tables.Pairwise fun left right => left.objectType.rank ≤ right.objectType.rank)
    (behind : ∀ table ∈ tables, ∀ objectType ∈ previous,
      objectType.rank ≤ table.objectType.rank) :
    (∀ table ∈ dropRepeats previous tables, ∀ objectType ∈ previous,
        objectType.rank < table.objectType.rank) ∧
      (dropRepeats previous tables).Pairwise fun left right =>
        left.objectType.rank < right.objectType.rank := by
  -- The type that was kept last goes along with the induction: it lies strictly in front of all
  -- that is kept after it.
  induction tables generalizing previous with
  | nil => simp [dropRepeats]
  | cons table rest inductionHypothesis =>
      obtain ⟨above, later⟩ := List.pairwise_cons.mp sorted
      have restBehind : ∀ other ∈ rest, ∀ objectType ∈ previous,
          objectType.rank ≤ other.objectType.rank := fun other member =>
        behind other (List.mem_cons_of_mem _ member)
      rw [dropRepeats]
      split
      · exact inductionHypothesis later restBehind
      · next differs =>
          have first : ∀ objectType ∈ previous, objectType.rank < table.objectType.rank := by
            intro objectType known
            have below := behind table (List.mem_cons_self ..) objectType known
            have apart : objectType.rank ≠ table.objectType.rank := by
              intro same
              rw [ObjectType.rank_injective same] at known
              exact differs known.symm
            omega
          have restAbove : ∀ other ∈ rest, ∀ objectType ∈ some table.objectType,
              objectType.rank ≤ other.objectType.rank := by
            intro other member objectType same
            cases same
            exact above other member
          obtain ⟨behindTable, ascending⟩ := inductionHypothesis later restAbove
          constructor
          · intro other member objectType known
            rcases List.mem_cons.mp member with here | there
            · exact here ▸ first objectType known
            · have beyond := behindTable other there _ rfl
              exact Nat.lt_trans (first objectType known) beyond
          · refine List.pairwise_cons.mpr ⟨fun other member => ?_, ascending⟩
            exact behindTable other member _ rfl

namespace ObjectTable

/-- The order that tables are sorted by. -/
abbrev typeOrder (left right : PointTable) : Bool :=
  left.objectType.rank ≤ right.objectType.rank

theorem typeOrder_trans (first second third : PointTable) :
    typeOrder first second = true -> typeOrder second third = true ->
      typeOrder first third = true := by
  simp only [decide_eq_true_eq]
  exact Nat.le_trans

theorem typeOrder_total (left right : PointTable) :
    (typeOrder left right || typeOrder right left) = true := by
  simp only [Bool.or_eq_true, decide_eq_true_eq]
  exact Nat.le_total _ _

/-- Sorting leaves the tables of one type in the order in which they were. -/
theorem filter_mergeSort (tables : List PointTable) (objectType : ObjectType) :
    (tables.mergeSort typeOrder).filter (·.objectType = objectType) =
      tables.filter (·.objectType = objectType) := by
  have equals : (tables.filter (·.objectType = objectType)).Pairwise
      fun left right => typeOrder left right = true := by
    refine List.pairwise_of_forall_mem_list fun left leftMember right rightMember => ?_
    have leftType := (List.mem_filter.mp leftMember).2
    have rightType := (List.mem_filter.mp rightMember).2
    simp only [decide_eq_true_eq] at leftType rightType
    simp [typeOrder, leftType, rightType]
  have kept := (List.sublist_mergeSort typeOrder_trans typeOrder_total equals
    List.filter_sublist).filter (·.objectType = objectType)
  rw [List.filter_filter] at kept
  simp only [Bool.and_self] at kept
  refine (kept.eq_of_length ?_).symm
  exact ((List.mergeSort_perm tables typeOrder).filter _).length_eq.symm

/-- The reporting table of a type is the first table of this type. -/
theorem find?_ofTables (tables : List PointTable) (objectType : ObjectType) :
    (ofTables tables).find? objectType = tables.find? (·.objectType = objectType) := by
  rw [find?, ofTables, find?_dropRepeats (by simp), ← List.head?_filter, ← List.head?_filter,
    filter_mergeSort]

/-- The reporting tables are in strictly ascending order of types. -/
theorem reporters_ascending (tables : List PointTable) :
    (ofTables tables).reporters.Pairwise fun left right =>
      left.objectType.rank < right.objectType.rank := by
  have sorted := List.pairwise_mergeSort typeOrder_trans typeOrder_total tables
  simp only [decide_eq_true_eq] at sorted
  exact (pairwise_dropRepeats sorted (by simp)).2

/-- Where types ascend, every table is the one that is found under its type. -/
theorem find?_of_ascending {tables : List PointTable} {table : PointTable}
    (ascending : tables.Pairwise fun left right => left.objectType.rank < right.objectType.rank)
    (member : table ∈ tables) :
    tables.find? (·.objectType = table.objectType) = some table := by
  induction ascending with
  | nil => cases member
  | @cons first rest above _ inductionHypothesis =>
      rcases List.mem_cons.mp member with rfl | later
      · exact List.find?_cons_of_pos (by simp)
      · have differ : first.objectType ≠ table.objectType := by
          intro same
          have below := above table later
          rw [same] at below
          exact Nat.lt_irrefl _ below
        rw [List.find?_cons_of_neg (by simpa using differ)]
        exact inductionHypothesis later

/-- The table that is found under a type is the one that reports for it. -/
theorem find?_eq_some_iff {tables : List PointTable} {objectType : ObjectType}
    {table : PointTable} :
    (ofTables tables).find? objectType = some table ↔
      table ∈ (ofTables tables).reporters ∧ table.objectType = objectType := by
  constructor
  · intro found
    exact ⟨List.mem_of_find?_eq_some found, objectType_of_find? found⟩
  · rintro ⟨member, rfl⟩
    exact find?_of_ascending (reporters_ascending tables) member

/-- A table reports exactly if it is the first table of its type. -/
theorem mem_reporters_iff {tables : List PointTable} {table : PointTable} :
    table ∈ (ofTables tables).reporters ↔
      tables.find? (·.objectType = table.objectType) = some table := by
  rw [← find?_ofTables, find?_eq_some_iff, and_iff_left rfl]

/-- The first tables of all types, in the order of types. -/
theorem reporters_eq (tables : List PointTable) :
    (ofTables tables).reporters =
      ObjectType.all.filterMap fun objectType =>
        tables.find? (·.objectType = objectType) := by
  have listed : (ObjectType.all.filterMap fun objectType =>
      tables.find? (·.objectType = objectType)).Pairwise fun left right =>
        left.objectType.rank < right.objectType.rank := by
    have types : ObjectType.all.Pairwise fun left right => left.rank < right.rank := by decide
    refine List.Pairwise.filterMap _ ?_ types
    intro left right below leftTable leftFound rightTable rightFound
    rw [objectType_of_find? leftFound, objectType_of_find? rightFound]
    exact below
  refine eq_of_ascending (fun below above => Nat.lt_asymm below above)
    (reporters_ascending tables) listed fun table => ?_
  rw [mem_reporters_iff, List.mem_filterMap]
  constructor
  · exact fun first => ⟨table.objectType, ObjectType.mem_all _, first⟩
  · rintro ⟨objectType, -, found⟩
    rw [objectType_of_find? found]
    exact found

/-! ## The normal form -/

/-- No table before this one in a list is of its type. -/
def IsFirstOfType (tables : List PointTable) (table : PointTable) : Prop :=
  ∃ earlier later, tables = earlier ++ table :: later ∧
    ∀ other ∈ earlier, other.objectType ≠ table.objectType

/-- What is left of some tables when each type is listed once, in ascending order, by its first
table. -/
structure IsNormalForm (tables listed : List PointTable) : Prop where
  ascending : listed.Pairwise fun left right => left.objectType.rank < right.objectType.rank
  types : ∀ objectType, (∃ table ∈ listed, table.objectType = objectType) ↔
    ∃ table ∈ tables, table.objectType = objectType
  first : ∀ table ∈ listed, IsFirstOfType tables table

/-- The first table of a type is the one that a search for the type finds. -/
theorem isFirstOfType_iff {tables : List PointTable} {table : PointTable} :
    IsFirstOfType tables table ↔
      tables.find? (·.objectType = table.objectType) = some table := by
  simp [List.find?_eq_some_iff_append, IsFirstOfType]

/-- Some table of a type is there exactly if there is a first one. -/
theorem exists_objectType_iff {tables : List PointTable} {objectType : ObjectType} :
    (∃ table ∈ tables, table.objectType = objectType) ↔
      ∃ table, tables.find? (·.objectType = objectType) = some table := by
  rw [← Option.isSome_iff_exists, List.find?_isSome]
  simp

/-- The reporting tables are a normal form of all tables. -/
theorem isNormalForm_reporters (tables : List PointTable) :
    IsNormalForm tables (ofTables tables).reporters where
  ascending := reporters_ascending tables
  types objectType := by
    rw [exists_objectType_iff, exists_objectType_iff, ← find?_ofTables tables]
    rfl
  first _ member := isFirstOfType_iff.mpr (mem_reporters_iff.mp member)

/-- A normal form lists the first table of every type. -/
theorem IsNormalForm.mem_iff {tables listed : List PointTable}
    (normal : IsNormalForm tables listed) {table : PointTable} :
    table ∈ listed ↔ IsFirstOfType tables table := by
  refine ⟨normal.first table, fun first => ?_⟩
  have found := isFirstOfType_iff.mp first
  obtain ⟨other, member, sameType⟩ := (normal.types table.objectType).mpr
    (exists_objectType_iff.mpr ⟨table, found⟩)
  have otherFound := isFirstOfType_iff.mp (normal.first other member)
  rw [sameType, found] at otherFound
  cases otherFound
  exact member

/-- Tables have one normal form. -/
theorem IsNormalForm.unique {tables listed others : List PointTable}
    (normal : IsNormalForm tables listed) (otherNormal : IsNormalForm tables others) :
    listed = others :=
  eq_of_ascending (fun below above => Nat.lt_asymm below above) normal.ascending
    otherNormal.ascending fun _ => normal.mem_iff.trans otherNormal.mem_iff.symm

/-- The reporting tables are the normal form of all tables, whatever types repeat in whatever
order. A table is found under a type exactly if it reports and is of this type, and none is found
exactly if there is no table of this type at all. -/
theorem reporters_normal_form (tables : List PointTable) :
    (∀ listed, listed = (ofTables tables).reporters ↔ IsNormalForm tables listed) ∧
    (∀ objectType table, (ofTables tables).find? objectType = some table ↔
      table ∈ (ofTables tables).reporters ∧ table.objectType = objectType) ∧
    (∀ objectType, (ofTables tables).find? objectType = none ↔
      ∀ table ∈ tables, table.objectType ≠ objectType) := by
  have normal := isNormalForm_reporters tables
  refine ⟨fun listed => ⟨?_, ?_⟩, fun _ _ => find?_eq_some_iff, fun objectType => ?_⟩
  · rintro rfl
    exact normal
  · exact fun other => other.unique normal
  · rw [find?_ofTables, List.find?_eq_none]
    simp

end ObjectTable

end Annunciator
