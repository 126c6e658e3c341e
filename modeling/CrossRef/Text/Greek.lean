/-!
The Greek alphabet without diacritics, upper and lower case, with the English letter names.
-/

namespace CrossRef.Text

/-- Each letter stands with its name; upper case letters have capitalised names. -/
def greekAlphabet : List (Char × String) :=
  [('Α', "Alpha"), ('Β', "Beta"), ('Γ', "Gamma"), ('Δ', "Delta"), ('Ε', "Epsilon"),
   ('Ζ', "Zeta"), ('Η', "Eta"), ('Θ', "Theta"), ('Ι', "Iota"), ('Κ', "Kappa"),
   ('Λ', "Lambda"), ('Μ', "Mu"), ('Ν', "Nu"), ('Ξ', "Xi"), ('Ο', "Omicron"), ('Π', "Pi"),
   ('Ρ', "Rho"), ('Σ', "Sigma"), ('Τ', "Tau"), ('Υ', "Upsilon"), ('Φ', "Phi"), ('Χ', "Chi"),
   ('Ψ', "Psi"), ('Ω', "Omega"),
   ('α', "alpha"), ('β', "beta"), ('γ', "gamma"), ('δ', "delta"), ('ε', "epsilon"),
   ('ζ', "zeta"), ('η', "eta"), ('θ', "theta"), ('ι', "iota"), ('κ', "kappa"),
   ('λ', "lambda"), ('μ', "mu"), ('ν', "nu"), ('ξ', "xi"), ('ο', "omicron"), ('π', "pi"),
   ('ρ', "rho"), ('σ', "sigma"), ('τ', "tau"), ('υ', "upsilon"), ('φ', "phi"), ('χ', "chi"),
   ('ψ', "psi"), ('ω', "omega")]

/-- The English name of a Greek letter. -/
def greekName? (c : Char) : Option String :=
  greekAlphabet.lookup c

end CrossRef.Text
