namespace RelayConsole

/-- The lines of a text, without the feed that ends a line and a return right before it. What follows the
last feed is a line, too, if there is anything. -/
def Lines.split {α : Type} [DecidableEq α] (feed ret : α) : List α → List (List α)
  | [] => []
  | c :: rest =>
    if c = feed then [] :: split feed ret rest
    else if c = ret ∧ rest.head? = some feed then split feed ret rest
    else
      match split feed ret rest with
      | [] => [[c]]
      | line :: lines => (c :: line) :: lines

end RelayConsole
