/-!
# Bounds of integers

The ends of the ranges of integers that are kept in 32 or 64 bits.
-/

namespace ChatLedger.Bounds

/-- The least integer of 64 bits with a sign. -/
abbrev lowest : Int := -9223372036854775808

/-- The greatest integer of 64 bits with a sign. -/
abbrev highest : Int := 9223372036854775807

/-- The greatest count of 32 bits. -/
abbrev count32 : Int := 4294967295

/-- The greatest count of 64 bits. -/
abbrev count64 : Int := 18446744073709551615

end ChatLedger.Bounds
