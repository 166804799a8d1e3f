import RelQuery.Proofs.Table.Repetitions
import RelQuery.Table.Reference

/-!
# Natural joins put together

A natural join merges: of a name that both sides have it keeps the left column and the left cell.
It does so only where the two sides agree, columns in their types and cells in their values.
Merging is associative, and since agreement is symmetric and transitive it does not matter which two
of three sides are merged first (`agree_or_iff`). So it does not for schemas, nor for rows, nor for
the nested loops that pair the rows (`Frame.naturalJoin_assoc`).
-/

namespace RelQuery

variable {α β γ δ ε κ : Type} {schema left right middle : Schema} {name : Text}
variable {names : List Text} {a b c row : Row} {f g h : Frame}

/-! ## Agreement -/

/-- What is there on both sides is related. -/
def Agree (related : α → α → Prop) (x y : Option α) : Prop :=
  ∀ a ∈ x, ∀ b ∈ y, related a b

/-- Of three sides that agree pairwise it does not matter which two are merged first. -/
theorem agree_or_iff {related : α → α → Prop} (hsymm : ∀ {a b}, related a b → related b a)
    (htrans : ∀ {a b c}, related a b → related b c → related a c) {x y z : Option α} :
    (Agree related x y ∧ Agree related (x.or y) z) ↔
      Agree related y z ∧ Agree related x (y.or z) := by
  cases x with
  | none => simp [Agree]
  | some a =>
      cases y with
      | none => simp [Agree]
      | some b =>
          cases z with
          | none => simp [Agree]
          | some c =>
              suffices h : (related a b ∧ related a c) ↔ (related b c ∧ related a b) by
                simpa [Agree] using h
              constructor
              · rintro ⟨hab, hac⟩
                exact ⟨htrans (hsymm hab) hac, hab⟩
              · rintro ⟨hbc, hab⟩
                exact ⟨hab, htrans hab hbc⟩

/-! ## Columns -/

namespace Dtype

/-- Whether columns of two types can be matched does not depend on their order. -/
theorem matchable_symm {s t : Dtype} (h : s.matchable t) : t.matchable s := by
  cases s <;> cases t <;> first | rfl | cases h

/-- Types that match a third one match each other. -/
theorem matchable_trans {s t u : Dtype} (hst : s.matchable t) (htu : t.matchable u) :
    s.matchable u := by
  revert hst htu
  cases s <;> cases t <;> cases u <;> decide

end Dtype

namespace Schema

/-- The columns of the left side and those of the right side with other names. -/
def joined (left right : Schema) : Schema :=
  left ++ right.without left.names

/-- Columns that have the same name can be matched under it. -/
def Joinable (left right : Schema) : Prop :=
  ∀ name, Agree (fun a b => Schema.isWildcard name = false ∧ a.dtype.matchable b.dtype)
    (left.column? name) (right.column? name)

/-- There is no column of a name that is none of the columns' names. -/
theorem column?_eq_none_iff : schema.column? name = none ↔ name ∉ schema.names := by
  simp [column?, names]

/-- The name under which a column is found is one of the names. -/
theorem mem_names_of_column? {column : Column} (h : schema.column? name = some column) :
    name ∈ schema.names := by
  by_contra hmem
  cases h.symm.trans (column?_eq_none_iff.2 hmem)

/-- The names in common are those that both have. -/
theorem mem_common_iff : name ∈ left.common right ↔ name ∈ left.names ∧ name ∈ right.names := by
  simp [common]

/-- Without these the right side has the columns that the left side does not have. -/
theorem without_common : right.without (left.common right) = right.without left.names := by
  refine List.filter_congr fun column hcolumn => ?_
  have hname : column.name ∈ right.names := mem_names_iff.2 ⟨column, hcolumn, rfl⟩
  simp [mem_common_iff, hname]

/-- A join has the columns of both sides. -/
theorem mem_names_joined :
    name ∈ (left.joined right).names ↔ name ∈ left.names ∨ name ∈ right.names := by
  rw [joined, names_append, List.mem_append, names_without, List.mem_filter]
  by_cases hname : name ∈ left.names <;> simp [hname]

/-- A join repeats no name. -/
theorem nodup_names_joined (hleft : left.names.Nodup) (hright : right.names.Nodup) :
    (left.joined right).names.Nodup := by
  rw [joined, names_append, names_without]
  refine hleft.append (hright.filter _) fun name hname hother => ?_
  simp [hname] at hother

/-- Under a name there is the left column or else the right one. -/
theorem column?_joined :
    (left.joined right).column? name = (left.column? name).or (right.column? name) := by
  have hfind : (left.joined right).column? name =
      (left.column? name).or ((right.without left.names).column? name) := List.find?_append
  rw [hfind]
  cases hleft : left.column? name with
  | some column => rfl
  | none =>
      have hname : name ∉ left.names := column?_eq_none_iff.1 hleft
      rw [Option.none_or, Option.none_or, without, column?, List.find?_filter]
      refine congrArg (fun test => right.find? test) (funext fun column => ?_)
      by_cases h : column.name = name <;> simp [h, hname]

/-- To leave out what a join has is to leave out what either side has. -/
theorem without_joined : right.without (left.joined middle).names =
    (right.without middle.names).without left.names := by
  rw [without, without, without, List.filter_filter]
  refine List.filter_congr fun column _ => ?_
  rw [Bool.eq_iff_iff]
  simp [mem_names_joined]

/-- The columns of three sides come in the same order in whichever way they are joined. -/
theorem joined_assoc : (left.joined middle).joined right = left.joined (middle.joined right) := by
  have happend : (middle ++ right.without middle.names).without left.names =
      middle.without left.names ++ (right.without middle.names).without left.names :=
    List.filter_append _ _
  rw [joined, without_joined, joined, joined, joined, happend, List.append_assoc]

/-- Three schemas can be joined in one way if they can be in the other. -/
theorem joinable_assoc :
    (left.Joinable middle ∧ (left.joined middle).Joinable right) ↔
      middle.Joinable right ∧ left.Joinable (middle.joined right) := by
  simp only [Joinable, column?_joined, ← forall_and]
  refine forall_congr' fun name => agree_or_iff ?_ ?_
  · rintro a b ⟨hname, hab⟩
    exact ⟨hname, Dtype.matchable_symm hab⟩
  · rintro a b c ⟨hname, hab⟩ ⟨-, hbc⟩
    exact ⟨hname, Dtype.matchable_trans hab hbc⟩

end Schema

/-! ## Cells -/

/-- Matching does not depend on the order of the two cells. -/
theorem Cell.matching_symm {x y : Cell} (h : x.matching y) : y.matching x := by
  rw [matching_iff_key, ne_eq, ← key_eq_missing_iff] at h ⊢
  exact ⟨h.2 ▸ h.1, h.2.symm⟩

/-- Cells that match a third one match each other. -/
theorem Cell.matching_trans {x y z : Cell} (hxy : x.matching y) (hyz : y.matching z) :
    x.matching z := by
  rw [matching_iff_key] at hxy hyz ⊢
  exact ⟨hxy.1, hxy.2.trans hyz.2⟩

namespace Row

/-- The cell of a row in the column of that name, if there is one. -/
def cell? (row : Row) (schema : Schema) (name : Text) : Option Cell :=
  if schema.names.contains name then some (row.cell schema name) else none

/-- Cells in columns of the same name match. -/
def Joins (left right : Schema) (a b : Row) : Prop :=
  ∀ name, Agree (fun x y => x.matching y) (a.cell? left name) (b.cell? right name)

/-- The cells of a row and those of another one in columns with other names. -/
def joined (left right : Schema) (a b : Row) : Row :=
  a ++ b.cells right (right.without left.names).names

/-- Rows match if they join: their cells match in all columns that both have. -/
theorem rowsMatch_iff_joins :
    Frame.rowsMatch (left.common right) left right a b ↔ a.Joins left right b := by
  rw [Frame.rowsMatch, List.all_eq_true]
  refine forall_congr' fun name => ?_
  rw [Schema.mem_common_iff]
  by_cases hleft : name ∈ left.names <;> by_cases hright : name ∈ right.names <;>
    simp [Agree, cell?, hleft, hright]

/-- In a joined row the left cells are found under their names. -/
theorem cell_joined_left (ha : a.length = left.length) (h : name ∈ left.names) :
    (joined left right a b).cell (left.joined right) name = a.cell left name :=
  cell_append_left ha h

/-- And the right cells under theirs. -/
theorem cell_joined_right (ha : a.length = left.length) (hleft : name ∉ left.names)
    (hright : name ∈ right.names) :
    (joined left right a b).cell (left.joined right) name = b.cell right name := by
  have hother : name ∈ (right.without left.names).names := by
    rw [Schema.names_without, List.mem_filter]
    simp [hleft, hright]
  rw [joined, Schema.joined, cell_append_right ha hleft, cell_cells rfl hother]

/-- Under a name there is the left cell or else the right one. -/
theorem cell?_joined (ha : a.length = left.length) :
    (joined left right a b).cell? (left.joined right) name =
      (a.cell? left name).or (b.cell? right name) := by
  by_cases hleft : name ∈ left.names
  · simp [cell?, Schema.mem_names_joined, hleft, cell_joined_left ha hleft]
  · by_cases hright : name ∈ right.names
    · simp [cell?, Schema.mem_names_joined, hleft, hright, cell_joined_right ha hleft hright]
    · simp [cell?, Schema.mem_names_joined, hleft, hright]

/-- Three rows can be joined in one way if they can be in the other. -/
theorem joins_assoc (ha : a.length = left.length) (hb : b.length = middle.length) :
    (a.Joins left middle b ∧ (joined left middle a b).Joins (left.joined middle) right c) ↔
      b.Joins middle right c ∧ a.Joins left (middle.joined right) (joined middle right b c) := by
  simp only [Joins, cell?_joined ha, cell?_joined hb, ← forall_and]
  refine forall_congr' fun name => agree_or_iff ?_ ?_
  · exact fun hxy => Cell.matching_symm hxy
  · exact fun hxy hyz => Cell.matching_trans hxy hyz

/-- Either way gives the same row. -/
theorem joined_assoc (hb : b.length = middle.length) :
    joined (left.joined middle) right (joined left middle a b) c =
      joined left (middle.joined right) a (joined middle right b c) := by
  have hnames : ((middle.joined right).without left.names).names =
      (middle.without left.names).names ++ (right.without (left.joined middle).names).names := by
    rw [Schema.without_joined, ← Schema.names_append]
    exact congrArg Schema.names (List.filter_append _ _)
  have hmiddle : ∀ name ∈ (middle.without left.names).names,
      (joined middle right b c).cell (middle.joined right) name = b.cell middle name := by
    intro name hname
    rw [Schema.names_without] at hname
    exact cell_joined_left hb (List.mem_of_mem_filter hname)
  have hright : ∀ name ∈ (right.without (left.joined middle).names).names,
      (joined middle right b c).cell (middle.joined right) name = c.cell right name := by
    intro name hname
    rw [Schema.names_without, List.mem_filter] at hname
    obtain ⟨hmem, hother⟩ := hname
    have hnot : name ∉ middle.names := by simp_all [Schema.mem_names_joined]
    exact cell_joined_right hb hnot hmem
  rw [joined.eq_def left (middle.joined right), hnames, cells, List.map_append,
    List.map_congr_left hmiddle, List.map_congr_left hright, joined, joined, List.append_assoc]
  rfl

/-- The joined row, if the rows can be joined. -/
def join? (left right : Schema) (a b : Row) : Option Row :=
  if Frame.rowsMatch (left.common right) left right a b then some (joined left right a b) else none

/-- There is a joined row where two rows join. -/
theorem join?_eq_some_iff :
    join? left right a b = some row ↔ a.Joins left right b ∧ joined left right a b = row := by
  simp [join?, ← rowsMatch_iff_joins]

/-- Three rows make the same row in whichever way they are joined, or none in either way. -/
theorem join?_assoc (ha : a.length = left.length) (hb : b.length = middle.length) :
    ((join? left middle a b).bind fun ab => join? (left.joined middle) right ab c) =
      (join? middle right b c).bind (join? left (middle.joined right) a) := by
  ext row
  simp only [Option.bind_eq_some_iff, join?_eq_some_iff]
  constructor
  · rintro ⟨_, ⟨hab, rfl⟩, habc, rfl⟩
    obtain ⟨hbc, habc⟩ := (joins_assoc ha hb).1 ⟨hab, habc⟩
    exact ⟨_, ⟨hbc, rfl⟩, habc, (joined_assoc hb).symm⟩
  · rintro ⟨_, ⟨hbc, rfl⟩, habc, rfl⟩
    obtain ⟨hab, habc⟩ := (joins_assoc ha hb).2 ⟨hbc, habc⟩
    exact ⟨_, ⟨hab, rfl⟩, habc, joined_assoc hb⟩

end Row

/-! ## Nested loops -/

/-- Two loops that pair elements in turn do the same in either order if pairing is associative. -/
theorem flatMap_filterMap_assoc {xs : List α} {ys : List β} {zs : List γ}
    {pair : α → β → Option δ} {pairLeft : δ → γ → Option ε}
    {pairRight : β → γ → Option κ} {pairAll : α → κ → Option ε}
    (h : ∀ x ∈ xs, ∀ y ∈ ys, ∀ z ∈ zs,
      ((pair x y).bind fun xy => pairLeft xy z) = (pairRight y z).bind (pairAll x)) :
    (xs.flatMap fun x => ys.filterMap (pair x)).flatMap (fun xy => zs.filterMap (pairLeft xy)) =
      xs.flatMap fun x =>
        (ys.flatMap fun y => zs.filterMap (pairRight y)).filterMap (pairAll x) := by
  rw [List.flatMap_assoc]
  refine List.flatMap_congr fun x hx => ?_
  rw [List.filterMap_flatMap, List.filterMap_eq_flatMap_toList, List.flatMap_assoc]
  refine List.flatMap_congr fun y hy => ?_
  rw [List.filterMap_filterMap]
  calc ((pair x y).toList.flatMap fun xy => zs.filterMap (pairLeft xy))
      = zs.filterMap fun z => (pair x y).bind fun xy => pairLeft xy z := by
        cases pair x y <;> simp
    _ = zs.filterMap fun z => (pairRight y z).bind (pairAll x) :=
        List.filterMap_congr fun z hz => h x hx y hy z hz

namespace Frame

/-- The rows of one frame, each with the rows of another one that it matches in the columns of the
same names. -/
def naturalJoin (left right : Frame) : Frame :=
  left.innerJoin (left.schema.common right.schema) right

/-- A natural join has the columns of both sides once. -/
theorem schema_naturalJoin : (f.naturalJoin g).schema = f.schema.joined g.schema := by
  rw [naturalJoin, innerJoin, Schema.without_common, Schema.joined]

/-- Its rows are those of the left side, each with the rows of the right side that it joins. -/
theorem rows_naturalJoin : (f.naturalJoin g).rows =
    f.rows.flatMap fun a => g.rows.filterMap (Row.join? f.schema g.schema a) := by
  rw [naturalJoin, innerJoin, Schema.without_common]
  refine List.flatMap_congr fun a _ => ?_
  rw [← List.filterMap_eq_map, List.filterMap_filter]
  rfl

/-- A natural join over no common column is the product. -/
theorem Rectangular.naturalJoin_eq_product (hg : g.Rectangular)
    (hcommon : f.schema.common g.schema = []) : f.naturalJoin g = f.product g := by
  have hothers : g.schema.without [] = g.schema := List.filter_eq_self.2 fun _ _ => rfl
  have hbesides : f.schema.besides g.schema = g.schema := by
    refine (List.map_congr_left fun column hcolumn => ?_).trans g.schema.map_id
    have hname : column.name ∉ f.schema.names := fun hname =>
      List.not_mem_nil (hcommon ▸ Schema.mem_common_iff.2
        ⟨hname, Schema.mem_names_iff.2 ⟨column, hcolumn, rfl⟩⟩)
    rw [if_neg (by simpa using hname), id]
  have hcells : ∀ b ∈ g.rows, b.cells g.schema g.schema.names = b := fun b hb =>
    Row.map_cell hg.names_nodup (hg.length_eq b hb)
  have hrows : ∀ a, g.rows.filter (rowsMatch [] f.schema g.schema a) = g.rows := fun a =>
    List.filter_eq_self.2 fun _ _ => rfl
  rw [Frame.naturalJoin, hcommon, Frame.innerJoin, Frame.product, hbesides, hothers]
  congr 1
  refine List.flatMap_congr fun a _ => ?_
  rw [hrows]
  exact List.map_congr_left fun b hb => congrArg (a ++ ·) (hcells b hb)

/-- It has a cell for every column in every row. -/
theorem Rectangular.naturalJoin (hf : f.Rectangular) (hg : g.Rectangular) :
    (f.naturalJoin g).Rectangular := by
  refine hf.innerJoin ?_
  rw [show (f.innerJoin _ g).schema = _ from schema_naturalJoin]
  exact Schema.nodup_names_joined hf.names_nodup hg.names_nodup

/-- Natural joins are associative. -/
theorem naturalJoin_assoc (hf : f.Rectangular) (hg : g.Rectangular) :
    (f.naturalJoin g).naturalJoin h = f.naturalJoin (g.naturalJoin h) := by
  have hrows : ((f.naturalJoin g).naturalJoin h).rows = (f.naturalJoin (g.naturalJoin h)).rows := by
    simp only [rows_naturalJoin, schema_naturalJoin]
    exact flatMap_filterMap_assoc fun a ha b hb c hc =>
      Row.join?_assoc (hf.length_eq a ha) (hg.length_eq b hb)
  have hschema : ((f.naturalJoin g).naturalJoin h).schema =
      (f.naturalJoin (g.naturalJoin h)).schema := by
    simp only [schema_naturalJoin, Schema.joined_assoc]
  exact Frame.mk.injEq _ _ _ _ ▸ ⟨hschema, hrows⟩

end Frame

end RelQuery
