import Mathlib.Data.List.Forall2
import Pipewright.Proofs.Action

set_option autoImplicit false

/-! # Passes over packages

A pass calls a fetcher on one package after the other. `Passes fetcher start calls result after`
says what these calls do, whatever the fetcher keeps in its state: each is made in the state that
the one before it left, and the first that fails is the last. `fetchEach` passes over a beginning of
its packages, and over all of them if it succeeds (`fetchEach_passes`).

Pins change nothing but revisions (`applyPins_revised`), and applying them again changes nothing
(`applyPins_applyPins`). -/

namespace Pipewright

open Pipewright.Action

/-! ## Pins -/

/-- The same package, with the revision that its pin names if it has one. -/
structure Package.Revised (pins : Pins) (package revised : Package) : Prop where
  uri : revised.uri = package.uri
  sourceRoot : revised.sourceRoot = package.sourceRoot
  revision : revised.revision = (Dictionary.get? package.uri pins).getD package.revision

theorem Package.pinned_revised (pins : Pins) (package : Package) :
    package.Revised pins (package.pinned pins) := by
  unfold Package.pinned
  cases hpin : Dictionary.get? package.uri pins with
  | none => exact ⟨rfl, rfl, by rw [hpin]; rfl⟩
  | some revision => exact ⟨rfl, rfl, by rw [hpin]; rfl⟩

theorem Package.pinned_pinned (pins : Pins) (package : Package) :
    (package.pinned pins).pinned pins = package.pinned pins := by
  cases hpin : Dictionary.get? package.uri pins with
  | none =>
    have hsame : package.pinned pins = package := by rw [Package.pinned, hpin]
    rw [hsame, hsame]
  | some revision =>
    have hpinned : package.pinned pins = { package with revision } := by rw [Package.pinned, hpin]
    rw [hpinned, Package.pinned, hpin]

theorem applyPins_revised (pins : Pins) (packages : List Package) :
    List.Forall₂ (Package.Revised pins) packages (applyPins pins packages) := by
  induction packages with
  | nil => exact .nil
  | cons package rest ih => exact .cons (package.pinned_revised pins) ih

theorem applyPins_applyPins (pins : Pins) (packages : List Package) :
    applyPins pins (applyPins pins packages) = applyPins pins packages := by
  unfold applyPins
  rw [List.map_map]
  exact List.map_congr_left fun package _ => package.pinned_pinned pins

/-! ## Calls -/

/-- A call of a fetcher. -/
structure FetchCall where
  package : Package
  update : Bool

variable {σ : Type}

/-- Calls of a fetcher one after the other, with what they give and the state that they leave: each
    is made in the state that the one before it left, and none after the first that fails. -/
inductive Passes (fetcher : Fetcher σ) :
    σ → List FetchCall → Except Failure Unit → σ → Prop
  | done (start : σ) : Passes fetcher start [] (.ok ()) start
  | call {start middle after : σ} {call : FetchCall} {calls : List FetchCall}
      {result : Except Failure Unit} :
      (fetcher call.package call.update).runOn start = (.ok (), middle) →
      Passes fetcher middle calls result after → Passes fetcher start (call :: calls) result after
  | fails {start after : σ} {call : FetchCall} {failure : Failure} :
      (fetcher call.package call.update).runOn start = (.error failure, after) →
      Passes fetcher start [call] (.error failure) after

/-- The calls of a whole pass. -/
def callsOn (update : Bool) (packages : List Package) : List FetchCall :=
  packages.map (⟨·, update⟩)

theorem fetchEach_passes (fetcher : Fetcher σ) (update : Bool) (packages : List Package)
    (start : σ) :
    let run := (fetchEach fetcher update packages).runOn start
    ∃ calls, Passes fetcher start calls run.1 run.2 ∧ calls <+: callsOn update packages ∧
      (run.1 = .ok () → calls = callsOn update packages) := by
  induction packages generalizing start with
  | nil => exact ⟨[], .done start, List.prefix_rfl, fun _ => rfl⟩
  | cons package rest ih =>
    simp only [fetchEach]
    rcases hcall : (fetcher package update).runOn start with ⟨failure | ⟨⟩, middle⟩
    · rw [runOn_bind_error hcall]
      exact ⟨[⟨package, update⟩], .fails hcall, ⟨callsOn update rest, rfl⟩, nofun⟩
    · rw [runOn_bind_ok hcall]
      obtain ⟨calls, hpasses, hstart, hall⟩ := ih middle
      refine ⟨⟨package, update⟩ :: calls, .call hcall hpasses, ?_, fun hok => ?_⟩
      · exact List.cons_prefix_cons.2 ⟨rfl, hstart⟩
      · rw [hall hok]
        rfl

/-- A pass gives back the pinned packages, or the failure of the call that failed. -/
theorem runOn_fetchAll (fetcher : Fetcher σ) (update : Bool) (pins : Pins)
    (packages : List Package) (start : σ) :
    (fetchAll fetcher update pins packages).runOn start =
      let run := (fetchEach fetcher update (applyPins pins packages)).runOn start
      (run.1.map fun _ => applyPins pins packages, run.2) := by
  simp only [fetchAll]
  rcases hrun : (fetchEach fetcher update (applyPins pins packages)).runOn start with
    ⟨failure | ⟨⟩, after⟩
  · exact runOn_bind_error hrun
  · exact runOn_bind_ok hrun

theorem fetchAll_ok {fetcher : Fetcher σ} {update : Bool} {pins : Pins}
    {packages fetched : List Package} {start after : σ}
    (h : (fetchAll fetcher update pins packages).runOn start = (.ok fetched, after)) :
    fetched = applyPins pins packages ∧
      (fetchEach fetcher update (applyPins pins packages)).runOn start = (.ok (), after) := by
  unfold fetchAll at h
  obtain ⟨⟨⟩, middle, hpass, h⟩ := runOn_bind_eq_ok h
  cases h
  exact ⟨rfl, hpass⟩

end Pipewright
