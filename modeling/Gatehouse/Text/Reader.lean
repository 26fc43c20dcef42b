namespace Gatehouse

/-- What a reader understood and what it left; nothing when it understood nothing. -/
abbrev Reader (α : Type) := List Char → Option (α × List Char)

end Gatehouse
