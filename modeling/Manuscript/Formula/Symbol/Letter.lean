import Manuscript.Formula.Symbol.Basic

/-!
# Letters

Greek letters, upright and slanted, and letters that mean a thing by themselves.
-/

namespace Manuscript.Formula.Symbols

/-- Letters by their names. -/
def letters : Symbols :=
  [("imath", 'ı'), ("Zbar", 'Ƶ'), ("jmath", 'ȷ'), ("Gamma", 'Γ'), ("Delta", 'Δ'), ("Theta", 'Θ'),
   ("Lambda", 'Λ'), ("Xi", 'Ξ'), ("Pi", 'Π'), ("Sigma", 'Σ'), ("Upsilon", 'Υ'), ("Phi", 'Φ'),
   ("Psi", 'Ψ'), ("Omega", 'Ω'), ("upAlpha", 'Α'), ("upBeta", 'Β'), ("upGamma", 'Γ'),
   ("upDelta", 'Δ'), ("upEpsilon", 'Ε'), ("upZeta", 'Ζ'), ("upEta", 'Η'), ("upTheta", 'Θ'),
   ("upIota", 'Ι'), ("upKappa", 'Κ'), ("upLambda", 'Λ'), ("upMu", 'Μ'), ("upNu", 'Ν'),
   ("upXi", 'Ξ'), ("upOmicron", 'Ο'), ("upPi", 'Π'), ("upRho", 'Ρ'), ("upSigma", 'Σ'),
   ("upTau", 'Τ'), ("upUpsilon", 'Υ'), ("upPhi", 'Φ'), ("upChi", 'Χ'), ("upPsi", 'Ψ'),
   ("upOmega", 'Ω'), ("alpha", 'α'), ("beta", 'β'), ("gamma", 'γ'), ("delta", 'δ'),
   ("varepsilon", 'ε'), ("zeta", 'ζ'), ("eta", 'η'), ("theta", 'θ'), ("iota", 'ι'),
   ("kappa", 'κ'), ("lambda", 'λ'), ("mu", 'μ'), ("nu", 'ν'), ("xi", 'ξ'), ("omicron", 'ο'),
   ("pi", 'π'), ("rho", 'ρ'), ("varsigma", 'ς'), ("sigma", 'σ'), ("tau", 'τ'), ("upsilon", 'υ'),
   ("varphi", 'φ'), ("chi", 'χ'), ("psi", 'ψ'), ("omega", 'ω'), ("varbeta", 'ϐ'),
   ("vartheta", 'ϑ'), ("phi", 'ϕ'), ("varpi", 'ϖ'), ("Digamma", 'Ϝ'), ("upDigamma", 'Ϝ'),
   ("digamma", 'ϝ'), ("updigamma", 'ϝ'), ("Qoppa", 'Ϙ'), ("upoldKoppa", 'Ϙ'), ("qoppa", 'ϙ'),
   ("upoldkoppa", 'ϙ'), ("Stigma", 'Ϛ'), ("upStigma", 'Ϛ'), ("stigma", 'ϛ'), ("upstigma", 'ϛ'),
   ("Koppa", 'Ϟ'), ("upKoppa", 'Ϟ'), ("koppa", 'ϟ'), ("upkoppa", 'ϟ'), ("Sampi", 'Ϡ'),
   ("upSampi", 'Ϡ'), ("sampi", 'ϡ'), ("upsampi", 'ϡ'), ("varkappa", 'ϰ'), ("varrho", 'ϱ'),
   ("upvarTheta", 'ϴ'), ("epsilon", 'ϵ'), ("backepsilon", '϶'), ("upalpha", 'α'), ("upbeta", 'β'),
   ("upgamma", 'γ'), ("updelta", 'δ'), ("upepsilon", 'ε'), ("upzeta", 'ζ'), ("upeta", 'η'),
   ("uptheta", 'θ'), ("upiota", 'ι'), ("upkappa", 'κ'), ("uplambda", 'λ'), ("upmu", 'μ'),
   ("upnu", 'ν'), ("upxi", 'ξ'), ("upomicron", 'ο'), ("uppi", 'π'), ("uprho", 'ρ'),
   ("upvarsigma", 'ς'), ("upsigma", 'σ'), ("uptau", 'τ'), ("upupsilon", 'υ'), ("upvarphi", 'φ'),
   ("upchi", 'χ'), ("uppsi", 'ψ'), ("upomega", 'ω'), ("upvartheta", 'ϑ'), ("upphi", 'ϕ'),
   ("upvarpi", 'ϖ'), ("upvarkappa", 'ϰ'), ("upvarrho", 'ϱ'), ("upvarepsilon", 'ϵ'),
   ("upbackepsilon", '϶'), ("varGamma", '𝛤'), ("varDelta", '𝛥'), ("varTheta", '𝛩'),
   ("varLambda", '𝛬'), ("varXi", '𝛯'), ("varPi", '𝛱'), ("varSigma", '𝛴'), ("varUpsilon", '𝛶'),
   ("varPhi", '𝛷'), ("varPsi", '𝛹'), ("varOmega", '𝛺'), ("Eulerconst", 'ℇ'), ("Planckconst", 'ℎ'),
   ("hbar", 'ℏ'), ("hslash", 'ℏ'), ("Im", 'ℑ'), ("ell", 'ℓ'), ("wp", '℘'), ("Re", 'ℜ'),
   ("mho", '℧'), ("turnediota", '℩'), ("Angstrom", 'Å'), ("Finv", 'Ⅎ'), ("aleph", 'ℵ'),
   ("beth", 'ℶ'), ("gimel", 'ℷ'), ("daleth", 'ℸ'), ("Bbbpi", 'ℼ'), ("Bbbgamma", 'ℽ'),
   ("BbbGamma", 'ℾ'), ("BbbPi", 'ℿ'), ("Bbbsum", '⅀'), ("Game", '⅁'), ("sansLturned", '⅂'),
   ("sansLmirrored", '⅃'), ("Yup", '⅄'), ("mitBbbD", 'ⅅ'), ("mitBbbd", 'ⅆ'), ("mitBbbe", 'ⅇ'),
   ("mitBbbi", 'ⅈ'), ("mitBbbj", 'ⅉ'), ("PropertyLine", '⅊'), ("upand", '⅋'), ("invamp", '⅋'),
   ("bindnasrepma", '⅋')]

end Manuscript.Formula.Symbols
