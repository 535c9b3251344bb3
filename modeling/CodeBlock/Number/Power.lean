set_option autoImplicit false

/-! # Powers

Powers of whole numbers are those of the core library, whatever else has been imported, so that a number
written with a power is the same term everywhere. -/

attribute [instance (2000), default_instance 20000] instPowNat
