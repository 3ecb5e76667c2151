import QuadCan.Channel
import QuadCan.Text.Utf8

namespace QuadCan

-- A line's channel and what follows it. Some replies come without a channel,
-- and these belong to the first one.
def route (line : Bytes) : Channel × Bytes :=
  match line with
  | [] => (Channel.unnamed, [])
  | byte :: rest =>
      match Channel.ofDigit? byte with
      | some channel => (channel, rest)
      | none => (Channel.unnamed, byte :: rest)

end QuadCan
