import SlaSettle.Indexer.Settlements
import SlaSettle.Js.Json

/-!
# Cursors and response bodies

`encodeCursor` and `decodeCursor` of `api/pagination.ts`, and the JSON body of a page of
settlements. A cursor is opaque to callers: base64url over JSON. The JSON functions and base64url
are any functions (`CodecLib`); what is used of them is that they give back what they were given
(`CodecLib.RoundTrips`), and then so do cursors (`decodeCursor_encodeCursor`).
-/

namespace SlaSettle

namespace Indexer

open Js

/-- The library functions behind a cursor. -/
structure CodecLib where
  /-- `JSON.stringify` -/
  stringify : Json → String
  /-- `JSON.parse` -/
  parse : String → Except Thrown Json
  /-- `Buffer.from(text, "utf-8").toString("base64url")` -/
  toBase64url : String → String
  /-- `Buffer.from(text, "base64url").toString("utf-8")` -/
  fromBase64url : String → String

/-- The JSON of a cursor, its fields in the order they are written. -/
def SettlementsCursor.toJson (cursor : SettlementsCursor) : Json :=
  .object [("ledgerCloseTime", .string cursor.ledgerCloseTime), ("eventId", .string cursor.eventId)]

/-- They round-trip. -/
structure CodecLib.RoundTrips (lib : CodecLib) : Prop where
  parse_stringify : ∀ cursor : SettlementsCursor,
    lib.parse (lib.stringify cursor.toJson) = .ok cursor.toJson
  fromBase64url_toBase64url : ∀ text, lib.fromBase64url (lib.toBase64url text) = text

def encodeCursor (lib : CodecLib) (cursor : SettlementsCursor) : String :=
  lib.toBase64url (lib.stringify cursor.toJson)

/-- Decode a cursor. Whatever is not one decodes to nothing, and the first page is served. -/
def decodeCursor (lib : CodecLib) (value : String) : Option SettlementsCursor :=
  match lib.parse (lib.fromBase64url value) with
  | .ok (.object fields) =>
    match fields.lookup "ledgerCloseTime", fields.lookup "eventId" with
    | some (.string ledgerCloseTime), some (.string eventId) => some ⟨ledgerCloseTime, eventId⟩
    | _, _ => none
  | _ => none

/-- **Cursors round-trip.** -/
theorem decodeCursor_encodeCursor {lib : CodecLib} (hlib : lib.RoundTrips)
    (cursor : SettlementsCursor) :
    decodeCursor lib (encodeCursor lib cursor) = some cursor := by
  rw [decodeCursor, encodeCursor, hlib.fromBase64url_toBase64url, hlib.parse_stringify cursor]
  rfl

/-! ### The body of a page -/

/-- The JSON of an entry. -/
def SettlementEntry.toJson (e : SettlementEntry) : Json :=
  .object [
    ("round_id", .ofNumber e.roundId),
    ("votes_up", .number e.votesUp),
    ("votes_down", .number e.votesDown),
    ("quorum_threshold", .ofNullable .ofNumber e.quorumThreshold),
    ("penalty_amount", .string e.penaltyAmount),
    ("beneficiary", .string e.beneficiary),
    ("tx_hash", .string e.txHash),
    ("ledger_close_time", .string e.ledgerCloseTime),
    ("explorer_url", .string e.explorerUrl)]

/-- The body of a page. -/
def settlementsBody (lib : CodecLib) (data : List SettlementEntry)
    (nextCursor : Option SettlementsCursor) : Json :=
  .object [("data", .array (data.map SettlementEntry.toJson)),
    ("next_cursor", .ofNullable .string (nextCursor.map (encodeCursor lib)))]

end Indexer

end SlaSettle
