import RelQuery.Proofs.Table.Row
import RelQuery.Table.Reference
import Mathlib.Data.List.Perm.Basic

/-!
# Columns that names refer to

A name refers to the columns whose names pass a test that it stands for, or else to the column of
that name, or to nothing whatever the columns are (`Schema.referred?_cases`). A name that stands for
a test refers to less where there are fewer columns and to the same columns in another order, and
one that refers to its own column alone still does where some of the others are left out.
-/

namespace RelQuery.Schema

variable {schema left right : Schema} {name other : Text} {names wanted referred : List Text}

/-- What a name can refer to. Which of the three it is does not depend on the columns. -/
theorem referred?_cases (name : Text) :
    (∃ test : Text → Bool, ∀ schema : Schema,
        schema.referred? name = some (schema.names.filter test)) ∨
      (∀ schema : Schema, schema.referred? name = some [name]) ∨
      ∀ schema : Schema, schema.referred? name = none := by
  by_cases hall : name = ['*']
  · exact .inl ⟨fun _ => true, fun schema => by rw [referred?, if_pos hall, List.filter_true]⟩
  · by_cases hexpression : isExpression name
    · cases hread : Regex.read? name with
      | none =>
          refine .inr (.inr fun schema => ?_)
          rw [referred?, if_neg hall, if_pos hexpression, hread, Option.map_none]
      | some regex =>
          refine .inl ⟨regex.isFoundIn, fun schema => ?_⟩
          rw [referred?, if_neg hall, if_pos hexpression, hread, Option.map_some]
    · exact .inr (.inl fun schema => by rw [referred?, if_neg hall, if_neg hexpression])

/-- One name refers to its columns alone. -/
theorem referredAll?_singleton : schema.referredAll? [name] = schema.referred? name := by
  cases h : schema.referred? name <;> simp [referredAll?, h]

/-- A name refers to columns that there are, if there is a column of that name. -/
theorem mem_names_of_referred? (h : schema.referred? name = some referred)
    (hmem : name ∈ schema.names) : ∀ other ∈ referred, other ∈ schema.names := by
  obtain ⟨test, htest⟩ | hself | hnone := referred?_cases name
  · cases (htest schema).symm.trans h
    exact fun _ hother => List.mem_of_mem_filter hother
  · cases (hself schema).symm.trans h
    simpa using hmem
  · cases (hnone schema).symm.trans h

/-- Names of columns refer to columns. -/
theorem mem_names_of_referredAll? (h : schema.referredAll? names = some referred)
    (hmem : ∀ name ∈ names, name ∈ schema.names) : ∀ name ∈ referred, name ∈ schema.names := by
  induction names generalizing referred with
  | nil =>
      cases h
      exact nofun
  | cons name names ih =>
      obtain ⟨hname, hnames⟩ := List.forall_mem_cons.1 hmem
      obtain ⟨first, rest, hfirst, hrest, rfl⟩ := referredAll?_cons_eq_some_iff.1 h
      exact List.forall_mem_append.2 ⟨mem_names_of_referred? hfirst hname, ih hrest hnames⟩

/-- Each of some names refers to a part of what they refer to together. -/
theorem exists_sublist_of_referredAll? (h : schema.referredAll? names = some referred)
    (hname : name ∈ names) :
    ∃ part, schema.referred? name = some part ∧ part.Sublist referred := by
  induction names generalizing referred with
  | nil => cases hname
  | cons first names ih =>
      obtain ⟨part, rest, hpart, hrest, rfl⟩ := referredAll?_cons_eq_some_iff.1 h
      obtain rfl | hname := List.mem_cons.1 hname
      · exact ⟨part, hpart, List.sublist_append_left part rest⟩
      · obtain ⟨other, hother, hsublist⟩ := ih hrest hname
        exact ⟨other, hother, hsublist.trans (List.sublist_append_right part rest)⟩

/-- A name that refers to its own column alone does so among fewer columns. -/
theorem referred?_select_of_self (h : schema.referred? name = some [name])
    (hwanted : ∀ other ∈ wanted, other ∈ schema.names) (hnodup : wanted.Nodup)
    (hname : name ∈ wanted) : (schema.select wanted).referred? name = some [name] := by
  obtain ⟨test, htest⟩ | hself | hnone := referred?_cases name
  · have hpass (other : Text) : other ∈ schema.names.filter test ↔ other = name := by
      rw [Option.some.inj ((htest schema).symm.trans h), List.mem_singleton]
    rw [htest, names_select hwanted]
    refine congrArg some (List.perm_singleton.1 ?_)
    refine (List.perm_ext_iff_of_nodup (hnodup.filter test) (List.nodup_singleton name)).2
      fun other => ?_
    rw [List.mem_filter, List.mem_singleton]
    constructor
    · rintro ⟨hother, htrue⟩
      exact (hpass other).1 (List.mem_filter.2 ⟨hwanted other hother, htrue⟩)
    · rintro rfl
      exact ⟨hname, (List.mem_filter.1 ((hpass other).2 rfl)).2⟩
  · exact hself _
  · cases (hnone schema).symm.trans h

/-- Where the columns stand in another order, a name refers to the same ones in another order. -/
theorem exists_referred?_perm (hperm : left.names.Perm right.names)
    (h : left.referred? name = some referred) :
    ∃ others, right.referred? name = some others ∧ referred.Perm others := by
  obtain ⟨test, htest⟩ | hself | hnone := referred?_cases name
  · cases (htest left).symm.trans h
    exact ⟨_, htest right, hperm.filter test⟩
  · cases (hself left).symm.trans h
    exact ⟨_, hself right, .refl _⟩
  · cases (hnone left).symm.trans h

/-- Some names refer to columns if each of them does, to those of the first name first. -/
theorem referredAll?_eq_some_iff : schema.referredAll? names = some referred ↔
    (∀ name ∈ names, (schema.referred? name).isSome) ∧
      names.flatMap (fun name => (schema.referred? name).getD []) = referred := by
  induction names generalizing referred with
  | nil => simp [referredAll?]
  | cons name names ih =>
      rw [referredAll?_cons_eq_some_iff, List.forall_mem_cons, List.flatMap_cons]
      cases hname : schema.referred? name with
      | none => simp
      | some first => simp [ih, and_assoc]

/-- Names in any order, under columns in any order, refer together to the same columns. -/
theorem exists_referredAll?_perm (hperm : left.names.Perm right.names) (hnames : names.Perm wanted)
    (h : left.referredAll? names = some referred) :
    ∃ others, right.referredAll? wanted = some others ∧ referred.Perm others := by
  obtain ⟨hsome, rfl⟩ := referredAll?_eq_some_iff.1 h
  have hpart (name : Text) (hname : name ∈ names) : (right.referred? name).isSome ∧
      ((left.referred? name).getD []).Perm ((right.referred? name).getD []) := by
    obtain ⟨part, hpart⟩ := Option.isSome_iff_exists.1 (hsome name hname)
    obtain ⟨others, hothers, hpartPerm⟩ := exists_referred?_perm hperm hpart
    simpa [hpart, hothers] using hpartPerm
  refine ⟨_, referredAll?_eq_some_iff.2 ⟨fun name hname => ?_, rfl⟩, ?_⟩
  · exact (hpart name (hnames.mem_iff.2 hname)).1
  · exact (List.Perm.flatMap_left names fun name hname => (hpart name hname).2).trans
      (hnames.flatMap_right _)

end RelQuery.Schema
