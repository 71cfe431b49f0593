import Mathlib.Data.List.Infix
import SlaSettle.Js.Value

/-!
# Wallets and their errors

`lib/network.ts` and the error handling of `lib/wallet.ts`. A wallet may be used only when its
network is the one the deployment is configured for, and a `WalletError` whose message speaks of a
rejection is taken for the user declining the request.
-/

namespace SlaSettle

namespace Web

open Js

/-! ### Networks -/

/-- `KNOWN_NETWORK_LABELS`, keyed by the SDK's network passphrases. -/
def knownNetworkLabels : List (String × String) :=
  [("Public Global Stellar Network ; September 2015", "Public Network"),
    ("Test SDF Network ; September 2015", "Testnet"),
    ("Test SDF Future Network ; October 2022", "Futurenet"),
    ("Local Sandbox Stellar Network ; September 2022", "Sandbox"),
    ("Standalone Network ; February 2017", "Standalone")]

def labelForNetworkPassphrase (passphrase : String) : String :=
  (knownNetworkLabels.lookup passphrase).getD "Custom Network"

/-- `checkWalletNetwork`, for the deployment's `NEXT_PUBLIC_NETWORK_PASSPHRASE`: the message of a
refusal. With no network configured nothing is allowed. -/
def checkWalletNetwork (configured : Option String) (walletPassphrase : String) :
    Except String Unit :=
  match configured with
  | none | some "" => .error "This app has no network configured, so transactions are disabled."
  | some configured =>
    if walletPassphrase ≠ configured then
      .error ("Your wallet is on " ++ labelForNetworkPassphrase walletPassphrase ++
        ". Switch your wallet to " ++ labelForNetworkPassphrase configured ++
        " before submitting transactions.")
    else .ok ()

/-- Only a wallet on the configured network is allowed. -/
theorem checkWalletNetwork_eq_ok_iff {configured : Option String} {walletPassphrase : String} :
    checkWalletNetwork configured walletPassphrase = .ok () ↔
      configured = some walletPassphrase ∧ walletPassphrase ≠ "" := by
  unfold checkWalletNetwork
  split
  · simp
  · simp only [reduceCtorEq, Option.some.injEq, false_iff, not_and, not_not]
    exact Eq.symm
  · rename_i passphrase hne
    by_cases hsame : walletPassphrase = passphrase
    · subst hsame
      rw [if_neg (not_not.mpr rfl)]
      exact iff_of_true rfl ⟨rfl, hne⟩
    · rw [if_pos hsame, Option.some.injEq]
      exact iff_of_false (by simp) fun h => hsame h.1.symm

/-! ### Errors -/

/-- What this code can throw: its own `WalletError`, or what the wallet and the SDK throw. -/
inductive Failure where
  | walletError (message : String) (code : Option ℤ)
  | thrown (t : Thrown)

/-- `/pattern/i`, for a pattern of lowercase letters: case folding of a regular expression without
the `u` flag keeps to ASCII. -/
def containsIgnoringCase (pattern message : String) : Bool :=
  pattern.toList <:+: message.toList.map Char.toLower

/-- `isUserRejection`: a `WalletError` that matches `/reject|declin|denied|cancel/i`. -/
def isUserRejection : Failure → Bool
  | .walletError message _ =>
    ["reject", "declin", "denied", "cancel"].any fun pattern => containsIgnoringCase pattern message
  | .thrown _ => false

/-- A text that begins with a match matches. -/
theorem containsIgnoringCase_append {pattern message : String}
    (h : containsIgnoringCase pattern message = true) (rest : String) :
    containsIgnoringCase pattern (message ++ rest) = true := by
  rw [containsIgnoringCase, decide_eq_true_eq] at h ⊢
  rw [String.toList_append, List.map_append]
  exact h.trans (List.prefix_append _ _).isInfix

/-- The error of a transaction that the network turned down. -/
def sendErrorMessage (hash : String) : String :=
  "The network rejected the transaction before it could be included (" ++ hash ++ ")."

/-- The error of a network that is busy. -/
def tryAgainLaterMessage : String :=
  "The network is busy and did not accept the transaction. Try again shortly."

private theorem sendErrorMessage_eq (hash : String) :
    sendErrorMessage hash = "The network rejected the transaction before it could be included (" ++
      (hash ++ ").") :=
  String.append_assoc

/-- The network's refusal reads like the user's. -/
theorem isUserRejection_sendError (hash : String) :
    isUserRejection (.walletError (sendErrorMessage hash) none) = true := by
  have hliteral : containsIgnoringCase "reject"
      "The network rejected the transaction before it could be included (" = true := by
    decide +kernel
  have hreject : containsIgnoringCase "reject" (sendErrorMessage hash) = true :=
    (congrArg _ (sendErrorMessage_eq hash)).trans (containsIgnoringCase_append hliteral _)
  rw [isUserRejection, List.any_cons, hreject, Bool.true_or]

theorem isUserRejection_tryAgainLater :
    isUserRejection (.walletError tryAgainLaterMessage none) = false := by
  decide +kernel

end Web

end SlaSettle
