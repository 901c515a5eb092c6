import MarketSnapshot.Settings.Basic
import MarketSnapshot.Value.Display

namespace MarketSnapshot.Channel

def leading (settings : SerializerSettings) (given : Value) : Option Text :=
  match given with
  | .null => some settings.channelPrefix
  | v => v.text?

def ofSymbol (leading : Option Text) (symbol : Value) : Option Text := do
  return (← leading) ++ (← symbol.text?)

end MarketSnapshot.Channel
