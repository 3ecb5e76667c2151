import QuadCan.Hub.Basic

namespace QuadCan.Hub

def channelRecord (hub : Hub) (channel : Channel) : String :=
  Record.text "Channel" [
    ("index", toString channel.val),
    ("observers", toString (hub.observers channel).length)]

end QuadCan.Hub
