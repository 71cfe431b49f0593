import Mathlib.Data.Nat.Basic
import Mathlib.Logic.Relation
import SlaSettle.Effect.InFlight

/-!
# The SLAs of the connected wallet

`useProviderSlas` of `lib/use-provider-slas.ts`: the SLAs of the address it is rendered with, read
by `fetchProviderSlas`. Its state outlives a change of the address. The rows of the last fetch stay
until another one succeeds, so that a refresh does not blank the list.

A scene is the hook in a page that renders it with one address after another, or with none. Renders
and effects are apart: a render exposes the state as it is and leaves its effects due, which look at
what that render looked at. Fetches come back in any order, with anything.

`provider_slas_of_address` is about every run in which the list is empty whenever the effects first
run for another address. Without that, `provider_slas_of_other` is a run that lists one provider's
SLAs under the address of another.
-/

namespace SlaSettle

namespace Web

open Effect

/-- How often the list is read again after an SLA was created. -/
def INDEXING_RETRY_LIMIT : ℕ := 18

variable {Address Sla Failure : Type}

/-! ### The hook's state -/

/-- What `fetchProviderSlas` returns. -/
structure ProviderSlaResult (Sla Failure : Type) where
  slas : List Sla
  failures : List Failure

/-- The state of the hook. -/
structure ProviderSlasState (Sla Failure : Type) extends ProviderSlaResult Sla Failure where
  loading : Bool
  error : Option String

/-- The state before the first effect, and without an address. -/
def ProviderSlasState.empty : ProviderSlasState Sla Failure :=
  ⟨⟨[], []⟩, false, none⟩

/-- What the effect sets before it fetches. The rows stay as they are. -/
def ProviderSlasState.startLoad (prev : ProviderSlasState Sla Failure) :
    ProviderSlasState Sla Failure :=
  { prev with loading := true, error := none }

/-- What is set when the fetch succeeds. -/
def ProviderSlasState.loaded (result : ProviderSlaResult Sla Failure) :
    ProviderSlasState Sla Failure :=
  ⟨result, false, none⟩

/-- What is set when the fetch fails. The rows stay as they are. -/
def ProviderSlasState.loadFailed (prev : ProviderSlasState Sla Failure) (message : String) :
    ProviderSlasState Sla Failure :=
  { prev with loading := false, error := some message }

/-- The number of SLAs listed. -/
def ProviderSlasState.count (state : ProviderSlasState Sla Failure) : ℕ :=
  state.slas.length + state.failures.length

/-! ### The scene -/

/-- What a render looked at. `fetchedFor` is the address the fetching effect had last run for by
then. -/
structure ProviderRender (Address Sla Failure : Type) where
  address : Option Address
  state : ProviderSlasState Sla Failure
  refreshKey : ℕ
  awaitingMoreThan : Option ℕ
  retries : ℕ
  fetchedFor : Option (Option Address)

/-- What the retrying effect depends on. -/
def ProviderRender.retryDeps (r : ProviderRender Address Sla Failure) :
    Option ℕ × ℕ × ℕ × Bool :=
  (r.awaitingMoreThan, r.state.count, r.retries, r.state.loading)

/-- A call of `fetchProviderSlas`, by the run of the effect that made it. -/
structure ProviderFetch (Address : Type) where
  run : ℕ
  address : Address

/-- The hook and the fetches it has made. -/
structure ProviderScene (Address Sla Failure : Type) where
  state : ProviderSlasState Sla Failure
  refreshKey : ℕ
  awaitingMoreThan : Option ℕ
  retries : ℕ
  countRef : ℕ
  /-- The renders so far, the last one first. -/
  rendered : ProviderRender Address Sla Failure
  earlier : List (ProviderRender Address Sla Failure)
  /-- The effects of the last render have yet to run. -/
  effectsDue : Bool
  /-- What the fetching effect last ran for. -/
  fetchDeps : Option (Option Address × ℕ)
  /-- The number of its last run: the runs before are cancelled. -/
  run : ℕ
  /-- What the retrying effect last ran for, and whether its timer is set. -/
  retryDeps : Option (Option ℕ × ℕ × ℕ × Bool)
  timer : Bool
  inFlight : List (ProviderFetch Address)
  /-- The calls that have returned a result. -/
  returned : List (Address × ProviderSlaResult Sla Failure)

namespace ProviderScene

/-- The hook has rendered for the first time. -/
def mount (address : Option Address) : ProviderScene Address Sla Failure where
  state := .empty
  refreshKey := 0
  awaitingMoreThan := none
  retries := 0
  countRef := 0
  rendered := ⟨address, .empty, 0, none, 0, none⟩
  earlier := []
  effectsDue := true
  fetchDeps := none
  run := 0
  retryDeps := none
  timer := false
  inFlight := []
  returned := []

/-- The address the fetching effect last ran for. -/
def fetchedFor (s : ProviderScene Address Sla Failure) : Option (Option Address) :=
  s.fetchDeps.map Prod.fst

/-- The hook renders again, with the address it is given. -/
def render (s : ProviderScene Address Sla Failure) (address : Option Address) :
    ProviderScene Address Sla Failure :=
  { s with
    rendered :=
      ⟨address, s.state, s.refreshKey, s.awaitingMoreThan, s.retries, s.fetchedFor⟩
    earlier := s.rendered :: s.earlier
    effectsDue := true }

/-- The effect that keeps the count at hand. With the same count it has nothing to do. -/
def countEffect (s : ProviderScene Address Sla Failure) : ProviderScene Address Sla Failure :=
  { s with countRef := s.rendered.state.count }

/-- What the fetching effect does: without an address it clears the list, else it fetches. -/
def startFetch (s : ProviderScene Address Sla Failure) :
    Option Address → ProviderScene Address Sla Failure
  | none => { s with state := .empty }
  | some address => { s with
      state := s.state.startLoad
      inFlight := ⟨s.run, address⟩ :: s.inFlight }

/-- The effect that fetches. It runs when the address or the key has changed, and cancels the run
before. -/
def fetchEffect [DecidableEq Address] (s : ProviderScene Address Sla Failure) :
    ProviderScene Address Sla Failure :=
  if s.fetchDeps = some (s.rendered.address, s.rendered.refreshKey) then s
  else
    { s with
      fetchDeps := some (s.rendered.address, s.rendered.refreshKey)
      run := s.run + 1 }.startFetch s.rendered.address

/-- The effect that sets the timer of the next retry, or gives up waiting. -/
def retryEffect (s : ProviderScene Address Sla Failure) : ProviderScene Address Sla Failure :=
  if s.retryDeps = some s.rendered.retryDeps then s
  else
    let s := { s with retryDeps := some s.rendered.retryDeps, timer := false }
    match s.rendered.awaitingMoreThan, s.rendered.state.loading with
    | some awaitingMoreThan, false =>
      if awaitingMoreThan < s.rendered.state.count ∨ INDEXING_RETRY_LIMIT ≤ s.rendered.retries then
        { s with awaitingMoreThan := none }
      else { s with timer := true }
    | _, _ => s

/-- The effects of the last render run. -/
def runEffects [DecidableEq Address] (s : ProviderScene Address Sla Failure) :
    ProviderScene Address Sla Failure :=
  { s.countEffect.fetchEffect.retryEffect with effectsDue := false }

/-- The timer of a retry fires. -/
def retry (s : ProviderScene Address Sla Failure) : ProviderScene Address Sla Failure :=
  { s with timer := false, retries := s.retries + 1, refreshKey := s.refreshKey + 1 }

/-- `refresh()`. -/
def refresh (s : ProviderScene Address Sla Failure) : ProviderScene Address Sla Failure :=
  { s with refreshKey := s.refreshKey + 1 }

/-- `refreshAfterCreate()`. -/
def refreshAfterCreate (s : ProviderScene Address Sla Failure) :
    ProviderScene Address Sla Failure :=
  { s with
    retries := 0
    awaitingMoreThan := some s.countRef
    refreshKey := s.refreshKey + 1 }

/-- A fetch returns. Its result is dropped if the effect has run again. -/
def succeed (s : ProviderScene Address Sla Failure) (fetch : ProviderFetch Address)
    (result : ProviderSlaResult Sla Failure) : ProviderScene Address Sla Failure :=
  let s := { s with returned := (fetch.address, result) :: s.returned }
  if fetch.run = s.run then { s with state := .loaded result } else s

/-- A fetch throws. -/
def fail (s : ProviderScene Address Sla Failure) (fetch : ProviderFetch Address)
    (message : String) : ProviderScene Address Sla Failure :=
  if fetch.run = s.run then { s with state := s.state.loadFailed message } else s

end ProviderScene

/-- One thing that happens. Effects run before the next render does. `admits` restricts the runs of
the effects: the code has no restriction. -/
inductive ProviderStep [DecidableEq Address] (admits : ProviderScene Address Sla Failure → Prop) :
    ProviderScene Address Sla Failure → ProviderScene Address Sla Failure → Prop
  | render {s : ProviderScene Address Sla Failure} {address : Option Address}
      (flushed : s.effectsDue = false) : ProviderStep admits s (s.render address)
  | runEffects {s : ProviderScene Address Sla Failure} (due : s.effectsDue = true)
      (admitted : admits s) : ProviderStep admits s s.runEffects
  | retry {s : ProviderScene Address Sla Failure} (set : s.timer = true) :
      ProviderStep admits s s.retry
  | refresh {s : ProviderScene Address Sla Failure} : ProviderStep admits s s.refresh
  | refreshAfterCreate {s : ProviderScene Address Sla Failure} :
      ProviderStep admits s s.refreshAfterCreate
  | succeed {s : ProviderScene Address Sla Failure} {fetch : ProviderFetch Address}
      {result : ProviderSlaResult Sla Failure} {l₁ l₂ : List (ProviderFetch Address)}
      (inFlight : s.inFlight = l₁ ++ fetch :: l₂) :
      ProviderStep admits s ({ s with inFlight := l₁ ++ l₂ }.succeed fetch result)
  | fail {s : ProviderScene Address Sla Failure} {fetch : ProviderFetch Address}
      {message : String} {l₁ l₂ : List (ProviderFetch Address)}
      (inFlight : s.inFlight = l₁ ++ fetch :: l₂) :
      ProviderStep admits s ({ s with inFlight := l₁ ++ l₂ }.fail fetch message)

/-- The scenes a mounted hook comes to. -/
def ProviderReachable [DecidableEq Address] (admits : ProviderScene Address Sla Failure → Prop)
    (s : ProviderScene Address Sla Failure) : Prop :=
  ∃ address, Relation.ReflTransGen (ProviderStep admits) (.mount address) s

/-! ### Whose SLAs are listed -/

/-- The rows are what a call for this address returned, or there are none. -/
def ComesFrom (returned : List (Address × ProviderSlaResult Sla Failure)) (address : Option Address)
    (state : ProviderSlasState Sla Failure) : Prop :=
  state.slas = [] ∧ state.failures = [] ∨
    ∃ a ∈ address, (a, state.toProviderSlaResult) ∈ returned

/-- When the effects first run for another address, nothing is listed. -/
def StartsBlank (s : ProviderScene Address Sla Failure) : Prop :=
  ∀ a, s.rendered.address = some a → s.fetchedFor ≠ some (some a) →
    s.state.slas = [] ∧ s.state.failures = []

/-- What holds in every scene. -/
structure ProviderScene.Sound (s : ProviderScene Address Sla Failure) : Prop where
  runs : ∀ fetch ∈ s.inFlight, fetch.run ≤ s.run
  current : ∀ fetch ∈ s.inFlight, fetch.run = s.run → s.fetchedFor = some (some fetch.address)
  shown : ∀ address, s.fetchedFor = some address → ComesFrom s.returned address s.state
  exposed : ∀ r ∈ s.rendered :: s.earlier, r.fetchedFor = some r.address →
    ComesFrom s.returned r.address r.state

/-- What was returned stays returned. -/
theorem ComesFrom.more {returned : List (Address × ProviderSlaResult Sla Failure)}
    {address : Option Address} {state : ProviderSlasState Sla Failure}
    (h : ComesFrom returned address state) (call : Address × ProviderSlaResult Sla Failure) :
    ComesFrom (call :: returned) address state :=
  h.imp_right fun ⟨a, ha, hreturned⟩ => ⟨a, ha, List.mem_cons_of_mem call hreturned⟩

namespace ProviderScene.Sound

variable {s : ProviderScene Address Sla Failure}

/-- A render exposes the state. -/
theorem render (h : s.Sound) (address : Option Address) : (s.render address).Sound :=
  ⟨h.runs, h.current, h.shown, List.forall_mem_cons.mpr ⟨h.shown address, h.exposed⟩⟩

/-- The count at hand does not matter. -/
theorem countEffect (h : s.Sound) : s.countEffect.Sound :=
  ⟨h.runs, h.current, h.shown, h.exposed⟩

/-- The fetching effect runs, for the same address or with an empty list. -/
theorem fetchEffect [DecidableEq Address] (h : s.Sound) (hblank : StartsBlank s) :
    s.fetchEffect.Sound := by
  rw [ProviderScene.fetchEffect]
  by_cases hdeps : s.fetchDeps = some (s.rendered.address, s.rendered.refreshKey)
  · rwa [if_pos hdeps]
  rw [if_neg hdeps]
  have hcancelled {fetch : ProviderFetch Address} (hfetch : fetch ∈ s.inFlight) :
      fetch.run < s.run + 1 := Nat.lt_succ_of_le (h.runs fetch hfetch)
  cases haddress : s.rendered.address with
  | none =>
    refine ⟨fun fetch hfetch => Nat.le_of_lt (hcancelled hfetch), fun fetch hfetch hrun => ?_,
      fun address _ => ?_, h.exposed⟩
    · exact absurd hrun (Nat.ne_of_lt (hcancelled hfetch))
    · exact .inl ⟨rfl, rfl⟩
  | some a =>
    refine ⟨?_, ?_, fun address hfor => ?_, h.exposed⟩
    · refine List.forall_mem_cons.mpr ⟨Nat.le_refl _, fun fetch hfetch => ?_⟩
      exact Nat.le_of_lt (hcancelled hfetch)
    · refine List.forall_mem_cons.mpr ⟨fun _ => rfl, fun fetch hfetch hrun => ?_⟩
      exact absurd hrun (Nat.ne_of_lt (hcancelled hfetch))
    · obtain rfl : some a = address := Option.some.inj hfor
      -- the rows are carried over: from this address, or there are none
      by_cases hsame : s.fetchedFor = some (some a)
      · exact h.shown (some a) hsame
      · exact .inl (hblank a haddress hsame)

/-- Waiting for more rows does not change them. -/
theorem retryEffect (h : s.Sound) : s.retryEffect.Sound := by
  have hset (awaitingMoreThan : Option ℕ) (timer : Bool) :
      { s with
        retryDeps := some s.rendered.retryDeps, timer := timer,
        awaitingMoreThan := awaitingMoreThan }.Sound :=
    ⟨h.runs, h.current, h.shown, h.exposed⟩
  rw [ProviderScene.retryEffect]
  split_ifs
  · exact h
  · dsimp only
    split
    · split_ifs
      · exact hset none false
      · exact hset s.awaitingMoreThan true
    · exact hset s.awaitingMoreThan false

/-- The effects of a render run. -/
theorem runEffects [DecidableEq Address] (h : s.Sound) (hblank : StartsBlank s) :
    s.runEffects.Sound := by
  have hcount : s.countEffect.Sound := h.countEffect
  have heffects : s.countEffect.fetchEffect.retryEffect.Sound :=
    (hcount.fetchEffect hblank).retryEffect
  exact ⟨heffects.runs, heffects.current, heffects.shown, heffects.exposed⟩

/-- A request is over. -/
theorem dropRequest (h : s.Sound) {l : List (ProviderFetch Address)} (hsub : l ⊆ s.inFlight) :
    { s with inFlight := l }.Sound :=
  ⟨fun fetch hfetch => h.runs fetch (hsub hfetch),
    fun fetch hfetch => h.current fetch (hsub hfetch), h.shown, h.exposed⟩

/-- A fetch returns: a result that is not dropped was fetched for the address of the effect. -/
theorem succeed (h : s.Sound) {fetch : ProviderFetch Address}
    (hcurrent : fetch.run = s.run → s.fetchedFor = some (some fetch.address))
    (result : ProviderSlaResult Sla Failure) : (s.succeed fetch result).Sound := by
  have hexposed : ∀ r ∈ s.rendered :: s.earlier, r.fetchedFor = some r.address →
      ComesFrom ((fetch.address, result) :: s.returned) r.address r.state :=
    fun r hr hfor => (h.exposed r hr hfor).more _
  rw [ProviderScene.succeed]
  split_ifs with hrun
  · refine ⟨h.runs, h.current, fun address hfor => ?_, hexposed⟩
    obtain rfl : some fetch.address = address := Option.some.inj ((hcurrent hrun).symm.trans hfor)
    exact .inr ⟨fetch.address, rfl, List.mem_cons_self⟩
  · exact ⟨h.runs, h.current, fun address hfor => (h.shown address hfor).more _, hexposed⟩

/-- A fetch throws, and the rows stay. -/
theorem fail (h : s.Sound) (fetch : ProviderFetch Address) (message : String) :
    (s.fail fetch message).Sound := by
  rw [ProviderScene.fail]
  split_ifs
  · exact ⟨h.runs, h.current, h.shown, h.exposed⟩
  · exact h

/-- What one step preserves. -/
theorem step [DecidableEq Address] {s' : ProviderScene Address Sla Failure} (h : s.Sound)
    (hstep : ProviderStep StartsBlank s s') : s'.Sound := by
  cases hstep with
  | render _ => exact h.render _
  | runEffects _ admitted => exact h.runEffects admitted
  | retry _ => exact ⟨h.runs, h.current, h.shown, h.exposed⟩
  | refresh => exact ⟨h.runs, h.current, h.shown, h.exposed⟩
  | refreshAfterCreate => exact ⟨h.runs, h.current, h.shown, h.exposed⟩
  | @succeed fetch result l₁ l₂ inFlight =>
    exact (h.dropRequest (subset_inFlight inFlight)).succeed
      (h.current fetch (mem_inFlight inFlight)) result
  | fail inFlight => exact (h.dropRequest (subset_inFlight inFlight)).fail _ _

end ProviderScene.Sound

/-- A hook that has been mounted. -/
theorem sound_mount_providerSlas (address : Option Address) :
    (ProviderScene.mount address : ProviderScene Address Sla Failure).Sound := by
  refine ⟨fun fetch hfetch => ?_, fun fetch hfetch => ?_, nofun, ?_⟩
  · exact absurd hfetch List.not_mem_nil
  · exact absurd hfetch List.not_mem_nil
  · exact List.forall_mem_singleton.mpr nofun

variable [DecidableEq Address]

/-- What holds in every scene of a run whose effects start blank. -/
theorem ProviderReachable.sound {s : ProviderScene Address Sla Failure}
    (h : ProviderReachable StartsBlank s) : s.Sound := by
  obtain ⟨address, hrun⟩ := h
  induction hrun with
  | refl => exact sound_mount_providerSlas address
  | tail _ hstep ih => exact ih.step hstep

/-- **Whose SLAs are listed.** As long as nothing is listed when the effects first run for another
address, every render after them lists what was fetched for the address it has. -/
theorem provider_slas_of_address {s : ProviderScene Address Sla Failure}
    (h : ProviderReachable StartsBlank s) :
    ∀ r ∈ s.rendered :: s.earlier, r.fetchedFor = some r.address →
      ComesFrom s.returned r.address r.state :=
  h.sound.exposed

section

/-! Two addresses, the first of which has an SLA. -/

private theorem ProviderReachable.next {admits : ProviderScene ℕ ℕ ℕ → Prop}
    {s s' : ProviderScene ℕ ℕ ℕ} (h : ProviderReachable admits s)
    (hstep : ProviderStep admits s s') : ProviderReachable admits s' := by
  obtain ⟨address, hrun⟩ := h
  exact ⟨address, hrun.tail hstep⟩

private theorem ProviderReachable.render {admits : ProviderScene ℕ ℕ ℕ → Prop}
    {s : ProviderScene ℕ ℕ ℕ} (h : ProviderReachable admits s) (address : Option ℕ)
    (hflushed : s.effectsDue = false) : ProviderReachable admits (s.render address) :=
  h.next (.render hflushed)

/-- The first address is rendered, and its SLA listed. -/
private def listed : ProviderScene ℕ ℕ ℕ where
  state := ⟨⟨[7], []⟩, false, none⟩
  refreshKey := 0
  awaitingMoreThan := none
  retries := 0
  countRef := 0
  rendered := ⟨some 1, ⟨⟨[7], []⟩, false, none⟩, 0, none, 0, some (some 1)⟩
  earlier := [⟨some 1, .empty, 0, none, 0, none⟩]
  effectsDue := true
  fetchDeps := some (some 1, 0)
  run := 1
  retryDeps := some (none, 0, 0, false)
  timer := false
  inFlight := []
  returned := [(1, ⟨[7], []⟩)]

private theorem reachable_listed {admits : ProviderScene ℕ ℕ ℕ → Prop}
    (hmount : admits (.mount (some 1))) : ProviderReachable admits listed := by
  have hstart : ProviderReachable admits (.mount (some 1)) := ⟨some 1, .refl⟩
  have hasked := hstart.next (.runEffects rfl hmount)
  exact (hasked.next (.succeed (List.nil_append _).symm)).next (.render rfl)

/-- An address and its SLA. -/
theorem provider_slas_of_address_first : ∃ s : ProviderScene ℕ ℕ ℕ,
    ProviderReachable StartsBlank s ∧ s.rendered.state.slas = [7] ∧
      ∀ r ∈ s.rendered :: s.earlier, r.fetchedFor = some r.address →
        ComesFrom s.returned r.address r.state := by
  have hlisted : ProviderReachable StartsBlank listed := reachable_listed fun _ _ _ => ⟨rfl, rfl⟩
  exact ⟨listed, hlisted, rfl, provider_slas_of_address hlisted⟩

/-- **The SLAs of another.** The wallet changes to an address with nothing fetched for it yet, and
the SLA of the first is listed under it. -/
theorem provider_slas_of_other : ¬ ∀ s : ProviderScene ℕ ℕ ℕ,
    ProviderReachable (fun _ => True) s → ∀ r ∈ s.rendered :: s.earlier,
      r.fetchedFor = some r.address → ComesFrom s.returned r.address r.state := by
  intro hcomes
  have hlisted : ProviderReachable (fun _ => True) listed := reachable_listed trivial
  have hchanged := (hlisted.next (.runEffects rfl trivial)).render (some 2) rfl
  have hshown := (hchanged.next (.runEffects rfl trivial)).render (some 2) rfl
  rcases hcomes _ hshown _ List.mem_cons_self rfl with ⟨hnil, -⟩ | ⟨a, ha, hreturned⟩
  · cases hnil
  · obtain rfl : 2 = a := Option.some.inj ha
    -- nothing was returned for the second address
    rcases List.mem_singleton.mp hreturned with ⟨⟩

end

end Web

end SlaSettle
