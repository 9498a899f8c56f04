import Pipewright.Project.Context
import Pipewright.Proofs.Template.Reads

set_option autoImplicit false

/-! # The data of a project

The data that a template is rendered with list the packages of their project
(`ProjectData.listsPackages`).

The data of two projects that are made at different times agree off `create_time`
(`ProjectData.agreeOff_createTime`), and those of a project that may be overwritten agree with those
of one that may not off `create_options.force_write` (`ProjectData.agreeOff_forceWrite`). A template
that looks nothing up on the way there is rendered to the same text with both. -/

namespace Pipewright

open Template

/-! ## The packages -/

/-- At `packages` the value has an array with one item for each of these packages, in their order,
    that has the import path of the package at `uri` and its revision at `revision`. -/
def Json.ListsPackages (value : Json) (packages : List Package) : Prop :=
  ∃ items, value.at? ["packages"] = some (.array items) ∧
    List.Forall₂ (fun item package => item.at? ["uri"] = some (.string package.uri) ∧
      item.at? ["revision"] = some (.string package.revision)) items packages

theorem ProjectData.listsPackages (data : ProjectData) :
    data.toJson.ListsPackages data.packages := by
  refine ⟨data.packages.map Package.toJson, rfl, ?_⟩
  rw [List.forall₂_map_left_iff, List.forall₂_same]
  exact fun package _ => ⟨rfl, rfl⟩

/-! ## Data that differ in one place -/

/-- The values have nothing inside. -/
def Json.IsLeaf : Json → Prop
  | .array _ | .object _ => False
  | _ => True

theorem follow_leaf {value : Json} (h : value.IsLeaf) {path : List String} (hpath : path ≠ []) :
    follow path (some value) = .ok none := by
  obtain ⟨name, rest, rfl⟩ := List.exists_cons_of_ne_nil hpath
  cases value with
  | array _ | object _ => exact h.elim
  | _ => exact follow_none rest

/-- Leaves agree but at the place where they stand. -/
theorem agreeOff_leaf {value other : Json} (h : value.IsLeaf) (hother : other.IsLeaf) :
    AgreeOff [] value other where
  present path hpath := by
    rw [List.prefix_nil] at hpath
    subst hpath
    exact ⟨value, rfl⟩
  same path hpath := by
    rw [List.prefix_nil] at hpath
    rw [follow_leaf h hpath, follow_leaf hother hpath]

theorem get?_inserted {key : String} {front back : Dictionary Json} (value : Json)
    (hfresh : key ∉ front.map (·.1)) :
    Dictionary.get? key (front ++ (key, value) :: back) = some value := by
  induction front with
  | nil => exact if_pos rfl
  | cons pair front ih =>
    rw [List.map_cons, List.mem_cons, not_or] at hfresh
    rw [List.cons_append, Dictionary.get?, if_neg (Ne.symm hfresh.1)]
    exact ih hfresh.2

theorem get?_inserted_of_ne {key name : String} (front back : Dictionary Json) (value other : Json)
    (hname : name ≠ key) :
    Dictionary.get? name (front ++ (key, other) :: back) =
      Dictionary.get? name (front ++ (key, value) :: back) := by
  induction front with
  | nil => simp only [List.nil_append, Dictionary.get?, if_neg (Ne.symm hname)]
  | cons pair front ih => simp only [List.cons_append, Dictionary.get?, ih]

/-- Objects that differ in one member agree off the way into this member. -/
theorem agreeOff_member {way : List String} {key : String} (front back : Dictionary Json)
    {value other : Json} (hfresh : key ∉ front.map (·.1)) (h : AgreeOff way value other) :
    AgreeOff (key :: way) (.object (front ++ (key, value) :: back))
      (.object (front ++ (key, other) :: back)) where
  present path hpath := by
    match path with
    | [] => exact ⟨_, rfl⟩
    | name :: rest =>
      obtain ⟨rfl, hrest⟩ := List.cons_prefix_cons.mp hpath
      change ∃ found, follow rest (Dictionary.get? name _) = .ok (some found)
      rw [get?_inserted value hfresh]
      exact h.present rest hrest
  same path hpath := by
    match path with
    | [] => exact absurd List.nil_prefix hpath
    | name :: rest =>
      change follow rest (Dictionary.get? name _) = follow rest (Dictionary.get? name _)
      by_cases hname : name = key
      · subst hname
        rw [get?_inserted value hfresh, get?_inserted other hfresh]
        exact h.same rest fun hrest => hpath (List.cons_prefix_cons.mpr ⟨rfl, hrest⟩)
      · rw [get?_inserted_of_ne front back value other hname]

/-- Data that differ in the time of creation agree off it. -/
theorem ProjectData.agreeOff_createTime (data : ProjectData) (createTime : String) :
    AgreeOff ["create_time"] data.toJson { data with createTime }.toJson :=
  agreeOff_member [_, _, _, _] [_] (by simp) (agreeOff_leaf trivial trivial)

/-- Data that differ in whether a project may be overwritten agree off this option. -/
theorem ProjectData.agreeOff_forceWrite (data : ProjectData) (forceWrite : Bool) :
    AgreeOff ["create_options", "force_write"] data.toJson
      { data with options := { data.options with forceWrite } }.toJson :=
  agreeOff_member [_, _, _] [_, _] (by simp)
    (agreeOff_member [] [_, _, _, _, _, _, _] (by simp) (agreeOff_leaf trivial trivial))

end Pipewright
