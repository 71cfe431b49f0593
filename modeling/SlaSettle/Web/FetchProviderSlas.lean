import SlaSettle.Effect.Promises
import SlaSettle.Web.IndexerClient
import SlaSettle.Web.ProviderSlas
import SlaSettle.Web.RoundStatus

/-!
# Reading the SLAs of a provider

`fetchProviderSlas` of `lib/use-provider-slas.ts`, from the indexer's answer on: `mapWithLimit`
works off the summaries with four workers, and each summary is read by a `Promise.all` of its
configuration and its bond, then with the metadata of its token, which summaries share. A read comes
back whenever it does, with a value or an error, and code goes on whenever what it awaits has
settled.

`FetchScene.Invariant` holds throughout (`Invariant.step`): which reads have been started, that none
was started twice, and that what became of a summary is what its reads say (`FetchScene.Explained`).
-/

namespace SlaSettle

namespace Web

open Effect

/-- An SLA as it is listed. -/
structure ProviderSlaView where
  slaId : ℤ
  config : SLAConfig
  bondBalance : ℤ
  tokenDecimals : ℤ
  tokenSymbol : String

/-- An SLA the indexer listed but whose live state could not be read. -/
structure ProviderSlaFailure where
  slaId : ℤ
  message : String

/-- What becomes of a summary. -/
inductive SlaOutcome where
  | sla (view : ProviderSlaView)
  | failure (unread : ProviderSlaFailure)

namespace SlaOutcome

def slaId : SlaOutcome → ℤ
  | sla view => view.slaId
  | failure unread => unread.slaId

def isSla : SlaOutcome → Bool
  | sla _ => true
  | failure _ => false

def sla? : SlaOutcome → Option ProviderSlaView
  | sla view => some view
  | failure _ => none

def failure? : SlaOutcome → Option ProviderSlaFailure
  | sla _ => none
  | failure unread => some unread

variable {outcome : SlaOutcome}

theorem isSome_sla? (outcome : SlaOutcome) : outcome.sla?.isSome = outcome.isSla := by
  cases outcome with
  | sla view => rfl
  | failure unread => rfl

theorem isSome_failure? (outcome : SlaOutcome) : outcome.failure?.isSome = !outcome.isSla := by
  cases outcome with
  | sla view => rfl
  | failure unread => rfl

theorem slaId_of_sla? {view : ProviderSlaView} (h : outcome.sla? = some view) :
    view.slaId = outcome.slaId := by
  cases outcome with
  | sla view' =>
    obtain rfl := Option.some.inj h
    rfl
  | failure unread => cases h

theorem slaId_of_failure? {unread : ProviderSlaFailure} (h : outcome.failure? = some unread) :
    unread.slaId = outcome.slaId := by
  cases outcome with
  | sla view => cases h
  | failure unread' =>
    obtain rfl := Option.some.inj h
    rfl

end SlaOutcome

def MAX_CONCURRENT_SLA_READS : ℕ := 4

/-- A read that is started: of the summary with an index, or of a token. -/
inductive SlaRead where
  | getSla (i : ℕ)
  | getBondBalance (i : ℕ)
  | getTokenDecimals (token : String)
  | getTokenSymbol (token : String)
  deriving DecidableEq

/-- The reads of a summary. -/
abbrev SummaryReads : Type := PromisePair ReadError SLAConfig ℤ

/-- The reads of a token. -/
abbrev TokenReads : Type := PromisePair ReadError ℤ String

/-! ### The scene -/

/-- A call of `fetchProviderSlas` under way. -/
structure FetchScene where
  workers : WorkerPool SlaOutcome
  /-- The reads of each summary, once it is begun. -/
  reads : ℕ → Option SummaryReads
  /-- What a summary was read as, once its reads have been fulfilled. -/
  live : ℕ → Option (SLAConfig × ℤ)
  tokenMetadata : List (String × TokenReads)
  /-- The reads started so far. -/
  started : List SlaRead

namespace FetchScene

/-- The two reads with which a summary is begun. -/
def beginReads (i : ℕ) : List SlaRead := [.getSla i, .getBondBalance i]

/-- The workers have each begun a summary. -/
def start (summaries : List ProviderSlaSummary) : FetchScene where
  workers := .start summaries.length MAX_CONCURRENT_SLA_READS
  reads i := if i < min MAX_CONCURRENT_SLA_READS summaries.length then some .start else none
  live _ := none
  tokenMetadata := []
  started := (List.range (min MAX_CONCURRENT_SLA_READS summaries.length)).flatMap beginReads

/-- The id of a summary. -/
def slaIdAt (summaries : List ProviderSlaSummary) (i : ℕ) : ℤ :=
  ((summaries[i]?).map ProviderSlaSummary.slaId).getD 0

/-- The next summary is begun. -/
def beginSummary (s : FetchScene) (i : ℕ) : FetchScene :=
  { s with
    reads := Function.update s.reads i (some .start)
    started := s.started ++ beginReads i }

/-- A summary is done, and its worker begins the next one, if there is one. -/
def finish (summaries : List ProviderSlaSummary) (s : FetchScene) (i : ℕ) (outcome : SlaOutcome) :
    FetchScene :=
  let s' := { s with workers := s.workers.finish summaries.length i outcome }
  if s.workers.next < summaries.length then s'.beginSummary s.workers.next else s'

/-- `getTokenMetadata`: the reads of a token are started at its first use. -/
def getTokenMetadata (s : FetchScene) (token : String) : FetchScene :=
  if token ∈ s.tokenMetadata.map Prod.fst then s
  else
    { s with
      tokenMetadata := s.tokenMetadata ++ [(token, .start)]
      started := s.started ++ [.getTokenDecimals token, .getTokenSymbol token] }

/-- A summary goes on after its own reads. -/
def afterReads (summaries : List ProviderSlaSummary) (s : FetchScene) (i : ℕ) :
    Except ReadError (SLAConfig × ℤ) → FetchScene
  | .error err => s.finish summaries i (.failure ⟨slaIdAt summaries i, describeReadError err⟩)
  | .ok (config, bondBalance) =>
    { s with live := Function.update s.live i (some (config, bondBalance)) }.getTokenMetadata
      config.token

/-- A summary goes on after the reads of its token. -/
def afterMetadata (summaries : List ProviderSlaSummary) (s : FetchScene) (i : ℕ)
    (config : SLAConfig) (bondBalance : ℤ) : Except ReadError (ℤ × String) → FetchScene
  | .error err => s.finish summaries i (.failure ⟨slaIdAt summaries i, describeReadError err⟩)
  | .ok (decimals, symbol) =>
    s.finish summaries i (.sla ⟨slaIdAt summaries i, config, bondBalance, decimals, symbol⟩)

/-- What `fetchProviderSlas` returns, when all workers have ended. -/
def result (summaries : List ProviderSlaSummary) (s : FetchScene) :
    Option (ProviderSlaResult ProviderSlaView ProviderSlaFailure) :=
  if s.workers.running = [] then
    let outcomes := (List.range summaries.length).filterMap s.workers.results
    some ⟨outcomes.filterMap SlaOutcome.sla?, outcomes.filterMap SlaOutcome.failure?⟩
  else none

end FetchScene

/-- One thing that happens: a read comes back, or a summary goes on. -/
inductive FetchStep (summaries : List ProviderSlaSummary) : FetchScene → FetchScene → Prop
  | read {s : FetchScene} {i : ℕ} {p q : SummaryReads} (reads : s.reads i = some p)
      (settles : p.Settles q) :
      FetchStep summaries s { s with reads := Function.update s.reads i (some q) }
  | metadata {s : FetchScene} {token : String} {p q : TokenReads}
      {l₁ l₂ : List (String × TokenReads)} (reads : s.tokenMetadata = l₁ ++ (token, p) :: l₂)
      (settles : p.Settles q) :
      FetchStep summaries s { s with tokenMetadata := l₁ ++ (token, q) :: l₂ }
  | afterReads {s : FetchScene} {i : ℕ} {p : SummaryReads}
      {outcome : Except ReadError (SLAConfig × ℤ)} (running : i ∈ s.workers.running)
      (reads : s.reads i = some p) (unread : s.live i = none)
      (settled : p.outcome = some outcome) :
      FetchStep summaries s (s.afterReads summaries i outcome)
  | afterMetadata {s : FetchScene} {i : ℕ} {config : SLAConfig} {bondBalance : ℤ} {p : TokenReads}
      {outcome : Except ReadError (ℤ × String)} (running : i ∈ s.workers.running)
      (live : s.live i = some (config, bondBalance)) (reads : (config.token, p) ∈ s.tokenMetadata)
      (settled : p.outcome = some outcome) :
      FetchStep summaries s (s.afterMetadata summaries i config bondBalance outcome)

/-! ### What holds of a call under way -/

namespace FetchScene

variable {summaries : List ProviderSlaSummary} {s s' : FetchScene} {i : ℕ}

/-- The tokens whose metadata has been asked for. -/
def tokens (s : FetchScene) : List String := s.tokenMetadata.map Prod.fst

/-- What an outcome says about the reads. -/
def Explained (summaries : List ProviderSlaSummary) (s : FetchScene) (i : ℕ) :
    SlaOutcome → Prop
  | .sla view => view.slaId = slaIdAt summaries i ∧
      ∃ p m, s.reads i = some p ∧ p.FulfilledWith view.config view.bondBalance ∧
        (view.config.token, m) ∈ s.tokenMetadata ∧
        m.FulfilledWith view.tokenDecimals view.tokenSymbol
  | .failure unread => unread.slaId = slaIdAt summaries i ∧
      ∃ err p, unread.message = describeReadError err ∧ s.reads i = some p ∧
        (p.RejectedWith err ∨ ∃ config bondBalance m, p.FulfilledWith config bondBalance ∧
          (config.token, m) ∈ s.tokenMetadata ∧ m.RejectedWith err)

/-- A read that is due by now. -/
def Begun (s : FetchScene) : SlaRead → Prop
  | .getSla i | .getBondBalance i => i < s.workers.next
  | .getTokenDecimals token | .getTokenSymbol token => token ∈ s.tokens

/-- What holds of a call under way. -/
structure Invariant (summaries : List ProviderSlaSummary) (s : FetchScene) : Prop where
  workers : s.workers.Valid summaries.length MAX_CONCURRENT_SLA_READS
  reads_iff : ∀ i, (s.reads i).isSome = true ↔ i < s.workers.next
  reads_valid : ∀ i p, s.reads i = some p → p.Valid
  live : ∀ i config bondBalance, s.live i = some (config, bondBalance) →
    config.token ∈ s.tokens ∧ ∃ p, s.reads i = some p ∧ p.FulfilledWith config bondBalance
  metadata_valid : ∀ e ∈ s.tokenMetadata, e.2.Valid
  tokens_nodup : s.tokens.Nodup
  started_nodup : s.started.Nodup
  mem_started : ∀ r, r ∈ s.started ↔ s.Begun r
  explained : ∀ i outcome, s.workers.results i = some outcome → Explained summaries s i outcome

/-- What has settled in `s` has settled alike in `s'`. -/
structure Later (s s' : FetchScene) : Prop where
  reads : ∀ i p, s.reads i = some p → ∃ q, s'.reads i = some q ∧ p.Extends q
  metadata : ∀ token m, (token, m) ∈ s.tokenMetadata →
    ∃ m', (token, m') ∈ s'.tokenMetadata ∧ m.Extends m'

theorem Explained.later {outcome : SlaOutcome} (h : Explained summaries s i outcome)
    (hlater : Later s s') : Explained summaries s' i outcome := by
  cases outcome with
  | sla view =>
    obtain ⟨hid, p, m, hp, hfulfilled, hm, hmetadata⟩ := h
    obtain ⟨q, hq, hpq⟩ := hlater.reads i p hp
    obtain ⟨m', hm', hmm'⟩ := hlater.metadata _ m hm
    exact ⟨hid, q, m', hq, hpq.fulfilledWith hfulfilled, hm', hmm'.fulfilledWith hmetadata⟩
  | failure unread =>
    obtain ⟨hid, err, p, hmessage, hp, hwhy⟩ := h
    obtain ⟨q, hq, hpq⟩ := hlater.reads i p hp
    refine ⟨hid, err, q, hmessage, hq, ?_⟩
    rcases hwhy with hrejected | ⟨config, bondBalance, m, hfulfilled, hm, hrejected⟩
    · exact .inl (hpq.rejectedWith hrejected)
    · obtain ⟨m', hm', hmm'⟩ := hlater.metadata _ m hm
      exact .inr ⟨config, bondBalance, m', hpq.fulfilledWith hfulfilled, hm',
        hmm'.rejectedWith hrejected⟩

theorem invariant_start : Invariant summaries (start summaries) where
  workers := WorkerPool.valid_start
  reads_iff i := by
    simp only [start, WorkerPool.start]
    split <;> simp_all
  reads_valid i p h := by
    simp only [start, Option.ite_none_right_eq_some, Option.some_inj] at h
    obtain ⟨-, rfl⟩ := h
    exact PromisePair.valid_start
  live i config bondBalance h := by cases h
  metadata_valid e he := by cases he
  tokens_nodup := List.nodup_nil
  started_nodup := by
    refine List.nodup_flatMap.mpr ⟨fun i _ => by simp [beginReads], ?_⟩
    refine List.nodup_range.imp fun {i j} hij => ?_
    simp [Function.onFun, beginReads, Ne.symm hij]
  mem_started r := by
    cases r <;> simp [start, Begun, beginReads, WorkerPool.start, tokens]
  explained i outcome h := by cases h

/-- A read of a summary comes back. -/
theorem Invariant.read (h : Invariant summaries s) {p q : SummaryReads} (hp : s.reads i = some p)
    (hpq : p.Settles q) :
    Invariant summaries { s with reads := Function.update s.reads i (some q) } := by
  have hlater : Later s { s with reads := Function.update s.reads i (some q) } := by
    refine ⟨fun j p' hp' => ?_, fun _ m hm => ⟨m, hm, .refl m⟩⟩
    by_cases hji : j = i
    · subst hji
      obtain rfl := Option.some.inj (hp.symm.trans hp')
      exact ⟨q, Function.update_self .., hpq.extends⟩
    · exact ⟨p', (Function.update_of_ne hji ..).trans hp', .refl p'⟩
  refine { h with reads_iff := ?_, reads_valid := ?_, live := ?_, explained := ?_ }
  · intro j
    by_cases hji : j = i
    · subst hji
      have hj := (h.reads_iff j).mp (by rw [hp]; rfl)
      simp only [Function.update_self]
      exact iff_of_true rfl hj
    · simp only [Function.update_of_ne hji]
      exact h.reads_iff j
  · intro j p' hp'
    by_cases hji : j = i
    · subst hji
      simp only [Function.update_self, Option.some_inj] at hp'
      exact hp' ▸ (h.reads_valid j p hp).settles hpq
    · simp only [Function.update_of_ne hji] at hp'
      exact h.reads_valid j p' hp'
  · intro j config bondBalance hj
    obtain ⟨htoken, p', hp', hfulfilled⟩ := h.live j config bondBalance hj
    obtain ⟨q', hq', hextends⟩ := hlater.reads j p' hp'
    exact ⟨htoken, q', hq', hextends.fulfilledWith hfulfilled⟩
  · exact fun j outcome hj => (h.explained j outcome hj).later hlater

/-- A read of a token comes back. -/
theorem Invariant.metadata (h : Invariant summaries s) {token : String} {p q : TokenReads}
    {l₁ l₂ : List (String × TokenReads)} (hp : s.tokenMetadata = l₁ ++ (token, p) :: l₂)
    (hpq : p.Settles q) :
    Invariant summaries { s with tokenMetadata := l₁ ++ (token, q) :: l₂ } := by
  have htokens : tokens { s with tokenMetadata := l₁ ++ (token, q) :: l₂ } = s.tokens := by
    simp only [tokens, hp, List.map_append, List.map_cons]
  have hlater : Later s { s with tokenMetadata := l₁ ++ (token, q) :: l₂ } := by
    refine ⟨fun j p' hp' => ⟨p', hp', .refl p'⟩, fun token' m hm => ?_⟩
    rw [hp] at hm
    simp only [List.mem_append, List.mem_cons, Prod.mk.injEq] at hm ⊢
    rcases hm with hm | ⟨rfl, rfl⟩ | hm
    · exact ⟨m, .inl hm, .refl m⟩
    · exact ⟨q, .inr (.inl ⟨rfl, rfl⟩), hpq.extends⟩
    · exact ⟨m, .inr (.inr hm), .refl m⟩
  have hvalid := h.metadata_valid
  rw [hp] at hvalid
  refine { h with
    live := ?_, metadata_valid := ?_, tokens_nodup := htokens ▸ h.tokens_nodup
    mem_started := fun r => (h.mem_started r).trans ?_
    explained := fun j outcome hj => (h.explained j outcome hj).later hlater }
  · exact htokens ▸ h.live
  · exact forall_inFlight rfl hvalid ((hvalid _ (mem_inFlight rfl)).settles hpq)
  · unfold Begun
    rw [htokens]

/-- The tokens after one has been asked for. -/
theorem mem_tokens_getTokenMetadata {token token' : String} :
    token' ∈ (s.getTokenMetadata token).tokens ↔ token' ∈ s.tokens ∨ token' = token := by
  unfold getTokenMetadata
  split
  · rename_i hmem
    refine ⟨.inl, ?_⟩
    rintro (h | rfl)
    · exact h
    · exact hmem
  · simp [tokens]

/-- The reads of a token that has not been asked for are started. -/
theorem Invariant.askToken (h : Invariant summaries s) {token : String}
    (hnew : token ∉ s.tokens) :
    Invariant summaries { s with
      tokenMetadata := s.tokenMetadata ++ [(token, .start)]
      started := s.started ++ [.getTokenDecimals token, .getTokenSymbol token] } := by
  have htokens : tokens { s with
      tokenMetadata := s.tokenMetadata ++ [(token, .start)]
      started := s.started ++ [.getTokenDecimals token, .getTokenSymbol token] } =
        s.tokens ++ [token] := by
    simp only [tokens, List.map_append, List.map_singleton]
  have hlater : Later s { s with
      tokenMetadata := s.tokenMetadata ++ [(token, .start)]
      started := s.started ++ [.getTokenDecimals token, .getTokenSymbol token] } :=
    ⟨fun j p hp => ⟨p, hp, .refl p⟩, fun _ m hm => ⟨m, List.mem_append_left _ hm, .refl m⟩⟩
  refine { h with
    live := ?_, metadata_valid := ?_, tokens_nodup := ?_, started_nodup := ?_, mem_started := ?_
    explained := fun j outcome hj => (h.explained j outcome hj).later hlater }
  · intro j config bondBalance hj
    obtain ⟨htoken, hreads⟩ := h.live j config bondBalance hj
    exact ⟨htokens ▸ List.mem_append_left _ htoken, hreads⟩
  · refine List.forall_mem_append.mpr ⟨h.metadata_valid, ?_⟩
    exact List.forall_mem_singleton.mpr PromisePair.valid_start
  · rw [htokens]
    exact List.Nodup.append h.tokens_nodup (List.nodup_singleton token) (by simpa using hnew)
  · have hdecimals : SlaRead.getTokenDecimals token ∉ s.started := fun hmem =>
      hnew ((h.mem_started _).mp hmem)
    have hsymbol : SlaRead.getTokenSymbol token ∉ s.started := fun hmem =>
      hnew ((h.mem_started _).mp hmem)
    refine List.Nodup.append h.started_nodup (by simp) ?_
    simp [hdecimals, hsymbol]
  · intro r
    rw [List.mem_append, h.mem_started r]
    unfold Begun
    rw [htokens]
    cases r <;> simp

theorem Invariant.getTokenMetadata (h : Invariant summaries s) (token : String) :
    Invariant summaries (s.getTokenMetadata token) := by
  unfold FetchScene.getTokenMetadata
  split
  · exact h
  · exact h.askToken ‹_›

theorem getTokenMetadata_live (live : ℕ → Option (SLAConfig × ℤ)) (token : String) :
    { s with live := live }.getTokenMetadata token =
      { s.getTokenMetadata token with live := live } := by
  unfold FetchScene.getTokenMetadata
  dsimp only
  split
  · rfl
  · rfl

theorem reads_getTokenMetadata (token : String) : (s.getTokenMetadata token).reads = s.reads := by
  unfold FetchScene.getTokenMetadata
  split
  · rfl
  · rfl

theorem workers_getTokenMetadata (token : String) :
    (s.getTokenMetadata token).workers = s.workers := by
  unfold FetchScene.getTokenMetadata
  split
  · rfl
  · rfl

/-- A summary has been read, and the metadata of its token is awaited. -/
theorem Invariant.fulfilled (h : Invariant summaries s) {p : SummaryReads} {config : SLAConfig}
    {bondBalance : ℤ} (hp : s.reads i = some p)
    (hfulfilled : p.FulfilledWith config bondBalance) :
    Invariant summaries
      ({ s with live := Function.update s.live i (some (config, bondBalance)) }.getTokenMetadata
        config.token) := by
  have hasked := h.getTokenMetadata config.token
  rw [getTokenMetadata_live]
  refine { hasked with live := ?_ }
  intro j config' bondBalance' hj
  by_cases hji : j = i
  · subst hji
    simp only [Function.update_self, Option.some_inj, Prod.mk.injEq] at hj
    obtain ⟨rfl, rfl⟩ := hj
    exact ⟨mem_tokens_getTokenMetadata.mpr (.inr rfl), p, by rw [reads_getTokenMetadata, hp],
      hfulfilled⟩
  · simp only [Function.update_of_ne hji] at hj
    obtain ⟨htoken, p', hp', hfulfilled'⟩ := h.live j config' bondBalance' hj
    exact ⟨mem_tokens_getTokenMetadata.mpr (.inl htoken), p', by rw [reads_getTokenMetadata, hp'],
      hfulfilled'⟩

theorem Invariant.explained_finish (h : Invariant summaries s) {outcome : SlaOutcome}
    (houtcome : Explained summaries s i outcome) {j : ℕ} {outcome' : SlaOutcome}
    (hj : (s.workers.finish summaries.length i outcome).results j = some outcome') :
    Explained summaries s j outcome' := by
  simp only [WorkerPool.finish] at hj
  by_cases hji : j = i
  · subst hji
    rw [Function.update_self, Option.some_inj] at hj
    exact hj ▸ houtcome
  · rw [Function.update_of_ne hji] at hj
    exact h.explained j outcome' hj

/-- A summary is done, and its worker ends. -/
theorem Invariant.finish_of_not_lt (h : Invariant summaries s) (hi : i ∈ s.workers.running)
    {outcome : SlaOutcome} (houtcome : Explained summaries s i outcome)
    (hmore : ¬ s.workers.next < summaries.length) :
    Invariant summaries (s.finish summaries i outcome) := by
  have hnext : (s.workers.finish summaries.length i outcome).next = s.workers.next := by
    rw [WorkerPool.finish_of_not_lt hmore]
  rw [FetchScene.finish, if_neg hmore]
  refine { h with
    workers := h.workers.finish hi, reads_iff := fun j => hnext ▸ h.reads_iff j
    mem_started := fun r => (h.mem_started r).trans ?_
    explained := fun j outcome' hj => h.explained_finish houtcome hj }
  cases r <;> simp [Begun, tokens, hnext]

theorem Invariant.reads_next (h : Invariant summaries s) : s.reads s.workers.next = none := by
  rw [← Option.not_isSome_iff_eq_none, h.reads_iff]
  exact lt_irrefl _

/-- A read that has been started is not one of the next summary. -/
theorem Invariant.ne_next (h : Invariant summaries s) {j : ℕ} {p : SummaryReads}
    (hp : s.reads j = some p) : j ≠ s.workers.next := by
  rintro rfl
  rw [h.reads_next] at hp
  cases hp

/-- A summary is done, and its worker begins the next. -/
theorem Invariant.finish_of_lt (h : Invariant summaries s) (hi : i ∈ s.workers.running)
    {outcome : SlaOutcome} (houtcome : Explained summaries s i outcome)
    (hmore : s.workers.next < summaries.length) :
    Invariant summaries (s.finish summaries i outcome) := by
  have hnext : (s.workers.finish summaries.length i outcome).next = s.workers.next + 1 := by
    rw [WorkerPool.finish_of_lt hmore]
  rw [FetchScene.finish, if_pos hmore]
  have hlater : Later s (beginSummary
      { s with workers := s.workers.finish summaries.length i outcome } s.workers.next) :=
    ⟨fun j p hp => ⟨p, (Function.update_of_ne (h.ne_next hp) ..).trans hp, .refl p⟩,
      fun _ m hm => ⟨m, hm, .refl m⟩⟩
  refine { h with
    workers := h.workers.finish hi, reads_iff := ?_, reads_valid := ?_, live := ?_
    started_nodup := ?_, mem_started := ?_
    explained := fun j outcome' hj => (h.explained_finish houtcome hj).later hlater }
  · intro j
    simp only [beginSummary, hnext]
    by_cases hj : j = s.workers.next
    · subst hj
      simp
    · rw [Function.update_of_ne hj, h.reads_iff]
      omega
  · intro j p hp
    simp only [beginSummary] at hp
    by_cases hj : j = s.workers.next
    · subst hj
      rw [Function.update_self, Option.some_inj] at hp
      exact hp ▸ PromisePair.valid_start
    · rw [Function.update_of_ne hj] at hp
      exact h.reads_valid j p hp
  · intro j config bondBalance hj
    obtain ⟨htoken, p, hp, hfulfilled⟩ := h.live j config bondBalance hj
    exact ⟨htoken, p, (Function.update_of_ne (h.ne_next hp) ..).trans hp, hfulfilled⟩
  · -- its reads have not been started, as it has not been begun
    have hsla : SlaRead.getSla s.workers.next ∉ s.started := fun hmem =>
      lt_irrefl _ ((h.mem_started _).mp hmem)
    have hbond : SlaRead.getBondBalance s.workers.next ∉ s.started := fun hmem =>
      lt_irrefl _ ((h.mem_started _).mp hmem)
    refine List.Nodup.append h.started_nodup (by simp [beginReads]) ?_
    simp [beginReads, hsla, hbond]
  · intro r
    simp only [beginSummary, List.mem_append, h.mem_started r]
    cases r <;> simp [Begun, tokens, beginReads, hnext] <;> omega

/-- A summary is done, and its worker ends or begins the next. -/
theorem Invariant.finish (h : Invariant summaries s) (hi : i ∈ s.workers.running)
    {outcome : SlaOutcome} (houtcome : Explained summaries s i outcome) :
    Invariant summaries (s.finish summaries i outcome) := by
  by_cases hmore : s.workers.next < summaries.length
  · exact h.finish_of_lt hi houtcome hmore
  · exact h.finish_of_not_lt hi houtcome hmore

/-- Every step keeps the invariant. -/
theorem Invariant.step (h : Invariant summaries s) (hstep : FetchStep summaries s s') :
    Invariant summaries s' := by
  cases hstep with
  | read reads settles => exact h.read reads settles
  | metadata reads settles => exact h.metadata reads settles
  | @afterReads i p outcome running reads unread settled =>
    have hp := h.reads_valid i p reads
    cases outcome with
    | error err =>
      exact h.finish running ⟨rfl, err, p, rfl, reads, .inl (hp.rejected err settled)⟩
    | ok live => exact h.fulfilled reads (hp.fulfilled _ _ settled)
  | @afterMetadata i config bondBalance m outcome running live reads settled =>
    have hm := h.metadata_valid _ reads
    obtain ⟨-, p, hp, hfulfilled⟩ := h.live i config bondBalance live
    cases outcome with
    | error err =>
      exact h.finish running ⟨rfl, err, p, rfl, hp,
        .inr ⟨config, bondBalance, m, hfulfilled, reads, hm.rejected err settled⟩⟩
    | ok metadata =>
      exact h.finish running ⟨rfl, p, m, hp, hfulfilled, reads, hm.fulfilled _ _ settled⟩

end FetchScene

end Web

end SlaSettle
