import Manuscript.Formula.Symbol.Basic

/-!
# Operators

The operators and relations of mathematics.
-/

namespace Manuscript.Formula.Symbols

/-- Quantifiers, large and small operators, and angles. -/
def operators : Symbols :=
  [("forall", '∀'), ("complement", '∁'), ("partial", '∂'), ("exists", '∃'), ("nexists", '∄'),
   ("emptyset", '∅'), ("varnothing", '∅'), ("increment", '∆'), ("nabla", '∇'), ("in", '∈'),
   ("notin", '∉'), ("nin", '∉'), ("smallin", '∊'), ("ni", '∋'), ("owns", '∋'), ("nni", '∌'),
   ("notni", '∌'), ("notowner", '∌'), ("smallni", '∍'), ("QED", '∎'), ("blacksquare", '∎'),
   ("prod", '∏'), ("coprod", '∐'), ("sum", '∑'), ("minus", '−'), ("mp", '∓'), ("dotplus", '∔'),
   ("divslash", '∕'), ("smallsetminus", '∖'), ("circ", '∘'), ("vysmwhtcircle", '∘'),
   ("vysmblkcircle", '∙'), ("surd", '√'), ("cuberoot", '∛'), ("fourthroot", '∜'), ("propto", '∝'),
   ("varpropto", '∝'), ("infty", '∞'), ("rightangle", '∟'), ("angle", '∠'),
   ("measuredangle", '∡'), ("sphericalangle", '∢'), ("mid", '∣'), ("shortmid", '∣'),
   ("nmid", '∤'), ("nshortmid", '∤'), ("parallel", '∥'), ("nparallel", '∦'),
   ("nshortparallel", '∦'), ("wedge", '∧'), ("land", '∧'), ("vee", '∨'), ("lor", '∨'),
   ("cap", '∩'), ("cup", '∪'), ("int", '∫'), ("smallint", '∫'), ("iint", '∬'), ("iiint", '∭'),
   ("oint", '∮'), ("oiint", '∯'), ("oiiint", '∰'), ("intclockwise", '∱'),
   ("varointclockwise", '∲'), ("ointctrclockwise", '∳'), ("therefore", '∴'), ("because", '∵')]

/-- Relations and the operators among them. -/
def relations : Symbols :=
  [("Colon", '∷'), ("dotminus", '∸'), ("eqcolon", '∹'), ("dashcolon", '∹'),
   ("dotsminusdots", '∺'), ("kernelcontraction", '∻'), ("sim", '∼'), ("thicksim", '∼'),
   ("backsim", '∽'), ("invlazys", '∾'), ("sinewave", '∿'), ("wr", '≀'), ("nsim", '≁'),
   ("eqsim", '≂'), ("simeq", '≃'), ("nsimeq", '≄'), ("nsime", '≄'), ("cong", '≅'),
   ("simneqq", '≆'), ("ncong", '≇'), ("approx", '≈'), ("thickapprox", '≈'), ("napprox", '≉'),
   ("approxeq", '≊'), ("approxident", '≋'), ("backcong", '≌'), ("asymp", '≍'), ("Bumpeq", '≎'),
   ("bumpeq", '≏'), ("doteq", '≐'), ("Doteq", '≑'), ("doteqdot", '≑'), ("fallingdotseq", '≒'),
   ("risingdotseq", '≓'), ("coloneq", '≔'), ("coloneqq", '≔'), ("eqqcolon", '≕'), ("eqcirc", '≖'),
   ("circeq", '≗'), ("arceq", '≘'), ("wedgeq", '≙'), ("veeeq", '≚'), ("stareq", '≛'),
   ("triangleq", '≜'), ("eqdef", '≝'), ("measeq", '≞'), ("questeq", '≟'), ("neq", '≠'),
   ("ne", '≠'), ("equiv", '≡'), ("nequiv", '≢'), ("Equiv", '≣'), ("leq", '≤'), ("le", '≤'),
   ("geq", '≥'), ("ge", '≥'), ("leqq", '≦'), ("geqq", '≧'), ("lneqq", '≨'), ("lvertneqq", '≨'),
   ("gneqq", '≩'), ("gvertneqq", '≩'), ("ll", '≪'), ("gg", '≫'), ("between", '≬'),
   ("nasymp", '≭'), ("nless", '≮'), ("ngtr", '≯'), ("nleq", '≰'), ("ngeq", '≱'), ("ngeqq", '≱'),
   ("lesssim", '≲'), ("gtrsim", '≳'), ("nlesssim", '≴'), ("ngtrsim", '≵'), ("lessgtr", '≶'),
   ("gtrless", '≷'), ("nlessgtr", '≸'), ("ngtrless", '≹'), ("prec", '≺'), ("succ", '≻'),
   ("preccurlyeq", '≼'), ("succcurlyeq", '≽'), ("precsim", '≾'), ("succsim", '≿'), ("nprec", '⊀'),
   ("nsucc", '⊁'), ("subset", '⊂'), ("supset", '⊃'), ("nsubset", '⊄'), ("nsupset", '⊅'),
   ("subseteq", '⊆'), ("supseteq", '⊇'), ("nsubseteq", '⊈'), ("nsubseteqq", '⊈'),
   ("nsupseteq", '⊉'), ("subsetneq", '⊊'), ("supsetneq", '⊋'), ("varsupsetneq", '⊋'),
   ("cupleftarrow", '⊌'), ("cupdot", '⊍'), ("uplus", '⊎'), ("sqsubset", '⊏'), ("sqsupset", '⊐'),
   ("sqsubseteq", '⊑'), ("sqsupseteq", '⊒'), ("sqcap", '⊓'), ("sqcup", '⊔'), ("oplus", '⊕'),
   ("ominus", '⊖'), ("otimes", '⊗'), ("oslash", '⊘'), ("odot", '⊙'), ("circledcirc", '⊚'),
   ("circledast", '⊛'), ("circledequal", '⊜'), ("circleddash", '⊝'), ("boxplus", '⊞'),
   ("boxminus", '⊟'), ("boxtimes", '⊠'), ("boxdot", '⊡'), ("vdash", '⊢'), ("dashv", '⊣'),
   ("top", '⊤'), ("bot", '⊥'), ("assert", '⊦'), ("models", '⊧'), ("vDash", '⊨'), ("Vdash", '⊩'),
   ("Vvdash", '⊪'), ("VDash", '⊫'), ("nvdash", '⊬'), ("nvDash", '⊭'), ("nVdash", '⊮'),
   ("nVDash", '⊯'), ("prurel", '⊰'), ("scurel", '⊱'), ("vartriangleleft", '⊲'),
   ("vartriangleright", '⊳'), ("trianglelefteq", '⊴'), ("unlhd", '⊴'), ("trianglerighteq", '⊵'),
   ("unrhd", '⊵'), ("origof", '⊶'), ("imageof", '⊷'), ("multimap", '⊸'), ("hermitmatrix", '⊹'),
   ("intercal", '⊺'), ("veebar", '⊻'), ("barwedge", '⊼'), ("barvee", '⊽'),
   ("measuredrightangle", '⊾'), ("varlrtriangle", '⊿'), ("bigwedge", '⋀'), ("bigvee", '⋁'),
   ("bigcap", '⋂'), ("bigcup", '⋃'), ("diamond", '⋄'), ("smwhtdiamond", '⋄'), ("star", '⋆'),
   ("divideontimes", '⋇'), ("bowtie", '⋈'), ("lrtimes", '⋈'), ("ltimes", '⋉'), ("rtimes", '⋊'),
   ("leftthreetimes", '⋋'), ("rightthreetimes", '⋌'), ("backsimeq", '⋍'), ("curlyvee", '⋎'),
   ("curlywedge", '⋏'), ("Subset", '⋐'), ("Supset", '⋑'), ("Cap", '⋒'), ("doublecap", '⋒'),
   ("Cup", '⋓'), ("doublecup", '⋓'), ("pitchfork", '⋔'), ("equalparallel", '⋕'), ("lessdot", '⋖'),
   ("gtrdot", '⋗'), ("lll", '⋘'), ("llless", '⋘'), ("ggg", '⋙'), ("gggtr", '⋙'),
   ("lesseqgtr", '⋚'), ("gtreqless", '⋛'), ("eqless", '⋜'), ("eqgtr", '⋝'), ("curlyeqprec", '⋞'),
   ("curlyeqsucc", '⋟'), ("npreceq", '⋠'), ("npreccurlyeq", '⋠'), ("nsucceq", '⋡'),
   ("nsucccurlyeq", '⋡'), ("nsqsubseteq", '⋢'), ("nsqsupseteq", '⋣'), ("sqsubsetneq", '⋤'),
   ("sqsupsetneq", '⋥'), ("lnsim", '⋦'), ("gnsim", '⋧'), ("precnsim", '⋨'), ("succnsim", '⋩'),
   ("ntriangleleft", '⋪'), ("nvartriangleleft", '⋪'), ("ntriangleright", '⋫'),
   ("nvartriangleright", '⋫'), ("ntrianglelefteq", '⋬'), ("ntrianglerighteq", '⋭'),
   ("vdots", '⋮'), ("cdots", '⋯'), ("unicodecdots", '⋯'), ("dotsb", '⋯'), ("dotsi", '⋯'),
   ("dotsm", '⋯'), ("iddots", '⋰'), ("adots", '⋰'), ("ddots", '⋱'), ("disin", '⋲'),
   ("varisins", '⋳'), ("isins", '⋴'), ("isindot", '⋵'), ("varisinobar", '⋶'), ("isinobar", '⋷'),
   ("isinvb", '⋸'), ("isinE", '⋹'), ("nisd", '⋺'), ("varnis", '⋻'), ("nis", '⋼'),
   ("varniobar", '⋽'), ("niobar", '⋾'), ("bagmember", '⋿')]

end Manuscript.Formula.Symbols
