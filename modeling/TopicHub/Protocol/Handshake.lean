/-
  Protocol/Handshake.lean --- the client id a connection announces.

  A client names itself in the query of the URL it opens: the first pair
  `id=value` with a value that is not empty, decoded as a form (`+` is a
  blank, `%XX` a byte).  A connection without such a pair, or without a query,
  announces nothing, and the server gives it an id of its own.
-/
import TopicHub.Text.FormEncoding

set_option autoImplicit false

namespace TopicHub.Protocol

/-- The client id announced in a query, if any. -/
def clientIdFromQuery (query : Option String) : Option String := do
  let q ← query
  let (_, v) ← (Text.formPairs q).find? fun (k, v) => k == "id" && v != ""
  return v

end TopicHub.Protocol
