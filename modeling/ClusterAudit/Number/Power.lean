-- SUMMARY: Powers of natural numbers and of integers.

/-!
# Powers

Bounds of words and powers of ten stand throughout the library as `2 ^ 64` or
`10 ^ k`. They are powers by repeated multiplication, also in a module that knows
of other structures with powers.
-/

attribute [default_instance 20000] instPowNat
attribute [instance (20000)] instPowNat
