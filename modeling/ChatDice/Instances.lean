/-!
Powers and zeros are those of the core library, even where a larger one that is imported as well
brings its own.
-/

namespace ChatDice

@[default_instance 20000]
instance (priority := 1100) corePowInt : Pow Int Nat := instPowNat

@[default_instance 20000]
instance (priority := 1100) corePowNat : Pow Nat Nat := instPowNat

instance (priority := 1100) coreZeroNat : Zero Nat := Zero.ofOfNat0

instance (priority := 1100) coreZeroInt : Zero Int := Zero.ofOfNat0

end ChatDice
