import RipV2.DriverFailures

/-!
A driver that records every call. Over any events, failed ones included, each
kernel route is one that the database holds to be in the kernel, and each of
those has the message under which its destination was last added.
-/

namespace RipV2.RecordedCalls

open RipV2.Database
open RipV2.Deamon
open RipV2.Deamon.RipDeamon
open RipV2.DeamonRuns
open RipV2.DriverFailures
open RipV2.EffectLogic
open RipV2.HostEnvironment
open RipV2.KernelRoutes
open RipV2.ReachableRoutes
open RipV2.Results
open RipV2.RoutingTables
open RipV2.TransitionRuns

/-- A driver with the calls made so far, and whether each was taken. -/
structure Recorded (Driver : Type) where
  driver : Driver
  calls : List (DriverCall × Bool)

/-- The route of the last add for a destination. -/
def lastAdded (key : RipRouteKey) (calls : List (DriverCall × Bool)) : Option RipDbEntry :=
  (calls.filterMap fun call =>
    match call.1 with
    | .add route => if buildRouteKey route.ripEntry = key then some route else none
    | .delete _ => none).getLast?

@[simp] theorem lastAdded_delete (key : RipRouteKey) (calls : List (DriverCall × Bool))
    (route : RipDbEntry) (taken : Bool) :
    lastAdded key (calls ++ [(.delete route, taken)]) = lastAdded key calls := by
  simp [lastAdded]

theorem lastAdded_add (key : RipRouteKey) (calls : List (DriverCall × Bool))
    (route : RipDbEntry) (taken : Bool) :
    lastAdded key (calls ++ [(.add route, taken)]) =
      if buildRouteKey route.ripEntry = key then some route else lastAdded key calls := by
  rw [lastAdded, List.filterMap_append]
  split_ifs with hkey
  · simp [hkey]
  · simp [hkey, lastAdded]

variable {Driver : Type} [KernelDriver Driver]

/-- The call is made and put on record with whether it was taken. -/
def Recorded.record (call : DriverCall) : EStateM RipError (Recorded Driver) Unit :=
  fun recorded =>
    match call.issue.run recorded.driver with
    | .ok _ driver => .ok () { driver, calls := recorded.calls ++ [(call, true)] }
    | .error e driver => .error e { driver, calls := recorded.calls ++ [(call, false)] }

theorem Recorded.record_cases (call : DriverCall) (recorded : Recorded Driver) :
    (∃ driver, call.issue.run recorded.driver = .ok () driver ∧ (record call).run recorded =
      .ok () { driver, calls := recorded.calls ++ [(call, true)] }) ∨
    ∃ e driver, call.issue.run recorded.driver = .error e driver ∧ (record call).run recorded =
      .error e { driver, calls := recorded.calls ++ [(call, false)] } := by
  have hrecord : (record call).run recorded = record call recorded := rfl
  rw [hrecord, record]
  rcases hissue : call.issue.run recorded.driver with ⟨_, driver⟩ | ⟨e, driver⟩
  · exact .inl ⟨driver, rfl, rfl⟩
  · exact .inr ⟨e, driver, rfl, rfl⟩

theorem Recorded.record_routes (call : DriverCall) (recorded : Recorded Driver) :
    KernelDriver.routes (finalState ((record call).run recorded)).driver =
      if succeeded ((record call).run recorded) then
        callEffect call (KernelDriver.routes recorded.driver)
      else KernelDriver.routes recorded.driver := by
  rcases record_cases call recorded with ⟨driver, hissue, hrun⟩ | ⟨e, driver, hissue, hrun⟩
  · rw [hrun]
    exact issue_ok_routes hissue
  · rw [hrun]
    exact issue_error_routes hissue

instance : KernelDriver (Recorded Driver) where
  addRoute route := Recorded.record (.add route)
  deleteRoute route := Recorded.record (.delete route)
  routes recorded := KernelDriver.routes recorded.driver
  addRoute_routes route recorded := Recorded.record_routes (.add route) recorded
  deleteRoute_routes route recorded := Recorded.record_routes (.delete route) recorded

theorem Recorded.issue_eq (call : DriverCall) :
    (call.issue : EStateM RipError (Recorded Driver) Unit) = Recorded.record call := by
  cases call <;> rfl

theorem issue_calls (call : DriverCall) (recorded : Recorded Driver) :
    (finalState (call.issue.run recorded)).calls =
      recorded.calls ++ [(call, succeeded (call.issue.run recorded))] := by
  rw [Recorded.issue_eq]
  rcases Recorded.record_cases call recorded with ⟨driver, -, hrun⟩ | ⟨e, driver, -, hrun⟩
  · rw [hrun]
    rfl
  · rw [hrun]
    rfl

/-- The kernel has no other messages than these, and each of them belongs to the
last add for its destination. -/
structure Accounts (f : RipRouteKey → Option RouteMessage) (recorded : Recorded Driver) :
    Prop where
  kernel : ∀ m ∈ KernelDriver.routes recorded, ∃ key, f key = some m
  adds : ∀ key m, f key = some m →
    ∃ route, lastAdded key recorded.calls = some route ∧ buildRouteMessage route = m

theorem Accounts.deleteRefused {f : RipRouteKey → Option RouteMessage}
    {recorded recorded' : Recorded Driver} {route : RipDbEntry} {e : RipError}
    (h : Accounts f recorded)
    (hissue : (DriverCall.delete route).issue.run recorded = .error e recorded') :
    Accounts f recorded' := by
  have hcalls := issue_calls (.delete route) recorded
  rw [hissue, finalState_error] at hcalls
  constructor
  · rw [issue_error_routes hissue]
    exact h.kernel
  · rw [hcalls]
    simpa using h.adds

theorem Accounts.deleteTaken {f : RipRouteKey → Option RouteMessage}
    {recorded recorded' : Recorded Driver} {route : RipDbEntry} {key : RipRouteKey}
    (h : Accounts f recorded) (hown : ∀ m, f key = some m → m = buildRouteMessage route)
    (hissue : (DriverCall.delete route).issue.run recorded = .ok () recorded') :
    Accounts (Function.update f key none) recorded' := by
  have hcalls := issue_calls (.delete route) recorded
  rw [hissue, finalState_ok] at hcalls
  constructor
  · rw [issue_ok_routes hissue]
    intro m hm
    obtain ⟨hne, hmem⟩ := Finset.mem_erase.mp hm
    obtain ⟨key', hkey'⟩ := h.kernel m hmem
    refine ⟨key', ?_⟩
    rw [Function.update_of_ne, hkey']
    rintro rfl
    exact hne (hown m hkey')
  · intro key' m hm
    rw [Function.update_apply] at hm
    split_ifs at hm
    rw [hcalls, lastAdded_delete]
    exact h.adds key' m hm

theorem Accounts.add {f : RipRouteKey → Option RouteMessage} {recorded : Recorded Driver}
    {route : RipDbEntry} (h : Accounts f recorded)
    (hfree : f (buildRouteKey route.ripEntry) = none) :
    Accounts (Function.update f (buildRouteKey route.ripEntry) (some (buildRouteMessage route)))
      (finalState ((DriverCall.add route).issue.run recorded)) := by
  have hkept : ∀ m ∈ KernelDriver.routes recorded, ∃ key, Function.update f
      (buildRouteKey route.ripEntry) (some (buildRouteMessage route)) key = some m := by
    intro m hm
    obtain ⟨key, hkey⟩ := h.kernel m hm
    refine ⟨key, ?_⟩
    rw [Function.update_of_ne, hkey]
    rintro rfl
    simp [hfree] at hkey
  constructor
  · cases hissue : (DriverCall.add route).issue.run recorded with
    | ok a recorded' =>
        rw [finalState_ok, issue_ok_routes hissue]
        intro m hm
        rcases Finset.mem_insert.mp hm with rfl | hold
        · exact ⟨_, Function.update_self _ _ _⟩
        · exact hkept m hold
    | error e recorded' =>
        rw [finalState_error, issue_error_routes hissue]
        exact hkept
  · intro key m hm
    rw [issue_calls, lastAdded_add]
    rw [Function.update_apply] at hm
    by_cases hkey : key = buildRouteKey route.ripEntry
    · rw [if_pos hkey] at hm
      exact ⟨route, by rw [if_pos hkey.symm], Option.some.inj hm⟩
    · rw [if_neg hkey] at hm
      rw [if_neg (Ne.symm hkey)]
      exact h.adds key m hm

theorem accounts_followsCalls :
    FollowsCalls (Accounts : (RipRouteKey → Option RouteMessage) → Recorded Driver → Prop) where
  deleted h hown _ hissue := h.deleteTaken hown hissue
  notDeleted h hissue := h.deleteRefused hissue
  added h hfree _ := h.add hfree

theorem run_accounts {deamon₀ deamon : RipDeamon (Recorded Driver)}
    {labels : List (Answers × DeamonEvent)} (hinitial : Initial deamon₀)
    (hempty : kernelRoutes deamon₀ = ∅) (hrun : Run Attempted deamon₀ labels deamon) :
    Following Accounts deamon := by
  refine accounts_followsCalls.run ⟨fun key => hinitial.1 ▸ wellFormed_new key, ?_, ?_⟩ hrun
  · intro m hm
    change m ∈ kernelRoutes deamon₀ at hm
    simp [hempty] at hm
  · intro key m hm
    simp [hinitial.1, messages, message?] at hm

end RipV2.RecordedCalls
