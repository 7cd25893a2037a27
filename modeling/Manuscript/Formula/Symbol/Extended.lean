import Manuscript.Formula.Symbol.Basic

/-!
# Further operators

Operators and relations with more strokes, dots and bars than the common ones.
-/

namespace Manuscript.Formula.Symbols

/-- Operators and angles of several strokes. -/
def furtherMarks : Symbols :=
  [("threedangle", '⟀'), ("whiteinwhitetriangle", '⟁'), ("perp", '⟂'), ("subsetcirc", '⟃'),
   ("supsetcirc", '⟄'), ("veedot", '⟇'), ("bsolhsub", '⟈'), ("suphsol", '⟉'),
   ("longdivision", '⟌'), ("diamondcdot", '⟐'), ("wedgedot", '⟑'), ("upin", '⟒'),
   ("pullback", '⟓'), ("pushout", '⟔'), ("leftouterjoin", '⟕'), ("rightouterjoin", '⟖'),
   ("fullouterjoin", '⟗'), ("bigbot", '⟘'), ("bigtop", '⟙'), ("DashVDash", '⟚'),
   ("dashVdash", '⟛'), ("multimapinv", '⟜'), ("vlongdash", '⟝'), ("longdashv", '⟞'),
   ("cirbot", '⟟'), ("lozengeminus", '⟠'), ("concavediamond", '⟡'),
   ("concavediamondtickleft", '⟢'), ("concavediamondtickright", '⟣'),
   ("whitesquaretickleft", '⟤'), ("whitesquaretickright", '⟥'), ("fourvdots", '⦙'),
   ("vzigzag", '⦚'), ("measuredangleleft", '⦛'), ("rightanglesqr", '⦜'), ("rightanglemdot", '⦝'),
   ("angles", '⦞'), ("angdnr", '⦟'), ("gtlpar", '⦠'), ("sphericalangleup", '⦡'),
   ("turnangle", '⦢'), ("revangle", '⦣'), ("angleubar", '⦤'), ("revangleubar", '⦥'),
   ("wideangledown", '⦦'), ("wideangleup", '⦧'), ("measanglerutone", '⦨'),
   ("measanglelutonw", '⦩'), ("measanglerdtose", '⦪'), ("measangleldtosw", '⦫'),
   ("measangleurtone", '⦬'), ("measangleultonw", '⦭'), ("measangledrtose", '⦮'),
   ("measangledltosw", '⦯'), ("revemptyset", '⦰'), ("emptysetobar", '⦱'), ("emptysetocirc", '⦲'),
   ("emptysetoarr", '⦳'), ("emptysetoarrl", '⦴'), ("circlehbar", '⦵'), ("circledvert", '⦶'),
   ("circledparallel", '⦷'), ("obslash", '⦸'), ("operp", '⦹'), ("obot", '⦺'), ("olcross", '⦻'),
   ("odotslashdot", '⦼'), ("uparrowoncircle", '⦽'), ("circledwhitebullet", '⦾'),
   ("circledbullet", '⦿'), ("olessthan", '⧀'), ("ogreaterthan", '⧁'), ("cirscir", '⧂'),
   ("cirE", '⧃'), ("boxdiag", '⧄'), ("boxslash", '⧄'), ("boxbslash", '⧅'), ("boxast", '⧆'),
   ("boxcircle", '⧇'), ("boxbox", '⧈'), ("boxonbox", '⧉'), ("triangleodot", '⧊'),
   ("triangleubar", '⧋'), ("triangles", '⧌'), ("triangleserifs", '⧍'), ("rtriltri", '⧎'),
   ("ltrivb", '⧏'), ("vbrtri", '⧐'), ("lfbowtie", '⧑'), ("rfbowtie", '⧒'), ("fbowtie", '⧓'),
   ("lftimes", '⧔'), ("rftimes", '⧕'), ("hourglass", '⧖'), ("blackhourglass", '⧗'),
   ("iinfin", '⧜'), ("tieinfty", '⧝'), ("nvinfty", '⧞'), ("dualmap", '⧟'), ("multimapboth", '⧟'),
   ("laplac", '⧠'), ("lrtriangleeq", '⧡'), ("shuffle", '⧢'), ("eparsl", '⧣'), ("smeparsl", '⧤'),
   ("eqvparsl", '⧥'), ("gleichstark", '⧦'), ("thermod", '⧧'), ("downtriangleleftblack", '⧨'),
   ("downtrianglerightblack", '⧩'), ("blackdiamonddownarrow", '⧪'), ("blacklozenge", '⧫'),
   ("mdlgblklozenge", '⧫'), ("circledownarrow", '⧬'), ("blackcircledownarrow", '⧭'),
   ("errbarsquare", '⧮'), ("errbarblacksquare", '⧯'), ("errbardiamond", '⧰'),
   ("errbarblackdiamond", '⧱'), ("errbarcircle", '⧲'), ("errbarblackcircle", '⧳'),
   ("ruledelayed", '⧴'), ("setminus", '⧵'), ("dsol", '⧶'), ("rsolbar", '⧷'), ("xsol", '⧸'),
   ("xbsol", '⧹'), ("doubleplus", '⧺'), ("tripleplus", '⧻'), ("tplus", '⧾'), ("tminus", '⧿')]

/-- Large operators, and sums and products of many kinds. -/
def furtherOperators : Symbols :=
  [("bigodot", '⨀'), ("bigoplus", '⨁'), ("bigotimes", '⨂'), ("bigcupdot", '⨃'), ("biguplus", '⨄'),
   ("bigsqcap", '⨅'), ("bigsqcup", '⨆'), ("conjquant", '⨇'), ("disjquant", '⨈'),
   ("bigtimes", '⨉'), ("modtwosum", '⨊'), ("sumint", '⨋'), ("iiiint", '⨌'), ("intbar", '⨍'),
   ("intBar", '⨎'), ("fint", '⨏'), ("cirfnint", '⨐'), ("awint", '⨑'), ("rppolint", '⨒'),
   ("scpolint", '⨓'), ("npolint", '⨔'), ("pointint", '⨕'), ("sqint", '⨖'), ("intlarhk", '⨗'),
   ("intx", '⨘'), ("intcap", '⨙'), ("intcup", '⨚'), ("upint", '⨛'), ("lowint", '⨜'),
   ("Join", '⨝'), ("bigtriangleleft", '⨞'), ("zcmp", '⨟'), ("zpipe", '⨠'), ("zproject", '⨡'),
   ("ringplus", '⨢'), ("plushat", '⨣'), ("simplus", '⨤'), ("plusdot", '⨥'), ("plussim", '⨦'),
   ("plussubtwo", '⨧'), ("plustrif", '⨨'), ("commaminus", '⨩'), ("minusdot", '⨪'),
   ("minusfdots", '⨫'), ("minusrdots", '⨬'), ("opluslhrim", '⨭'), ("oplusrhrim", '⨮'),
   ("vectimes", '⨯'), ("dottimes", '⨰'), ("timesbar", '⨱'), ("btimes", '⨲'), ("smashtimes", '⨳'),
   ("otimeslhrim", '⨴'), ("otimesrhrim", '⨵'), ("otimeshat", '⨶'), ("Otimes", '⨷'), ("odiv", '⨸'),
   ("triangleplus", '⨹'), ("triangleminus", '⨺'), ("triangletimes", '⨻'), ("intprod", '⨼'),
   ("intprodr", '⨽'), ("fcmp", '⨾'), ("amalg", '⨿'), ("capdot", '⩀'), ("uminus", '⩁'),
   ("barcup", '⩂'), ("barcap", '⩃'), ("capwedge", '⩄'), ("cupvee", '⩅'), ("cupovercap", '⩆'),
   ("capovercup", '⩇'), ("cupbarcap", '⩈'), ("capbarcup", '⩉'), ("twocups", '⩊'),
   ("twocaps", '⩋'), ("closedvarcup", '⩌'), ("closedvarcap", '⩍'), ("Sqcap", '⩎'), ("Sqcup", '⩏'),
   ("closedvarcupsmashprod", '⩐'), ("wedgeodot", '⩑'), ("veeodot", '⩒'), ("Wedge", '⩓'),
   ("Vee", '⩔'), ("wedgeonwedge", '⩕'), ("veeonvee", '⩖'), ("bigslopedvee", '⩗'),
   ("bigslopedwedge", '⩘'), ("veeonwedge", '⩙'), ("wedgemidvert", '⩚'), ("veemidvert", '⩛'),
   ("midbarwedge", '⩜'), ("midbarvee", '⩝'), ("wedgebar", '⩟'), ("wedgedoublebar", '⩠'),
   ("varveebar", '⩡'), ("doublebarvee", '⩢'), ("veedoublebar", '⩣'), ("dsub", '⩤'), ("rsub", '⩥')]

/-- Relations of many kinds. -/
def furtherRelations : Symbols :=
  [("eqdot", '⩦'), ("dotequiv", '⩧'), ("equivVert", '⩨'), ("equivVvert", '⩩'), ("dotsim", '⩪'),
   ("simrdots", '⩫'), ("simminussim", '⩬'), ("congdot", '⩭'), ("asteq", '⩮'), ("hatapprox", '⩯'),
   ("approxeqq", '⩰'), ("eqqplus", '⩱'), ("pluseqq", '⩲'), ("eqqsim", '⩳'), ("Coloneq", '⩴'),
   ("Coloneqq", '⩴'), ("eqeq", '⩵'), ("eqeqeq", '⩶'), ("ddotseq", '⩷'), ("equivDD", '⩸'),
   ("ltcir", '⩹'), ("gtcir", '⩺'), ("ltquest", '⩻'), ("gtquest", '⩼'), ("leqslant", '⩽'),
   ("geqslant", '⩾'), ("lesdot", '⩿'), ("gesdot", '⪀'), ("lesdoto", '⪁'), ("gesdoto", '⪂'),
   ("lesdotor", '⪃'), ("gesdotol", '⪄'), ("lessapprox", '⪅'), ("gtrapprox", '⪆'), ("lneq", '⪇'),
   ("gneq", '⪈'), ("lnapprox", '⪉'), ("gnapprox", '⪊'), ("lesseqqgtr", '⪋'), ("gtreqqless", '⪌'),
   ("lsime", '⪍'), ("gsime", '⪎'), ("lsimg", '⪏'), ("gsiml", '⪐'), ("lgE", '⪑'), ("glE", '⪒'),
   ("lesges", '⪓'), ("gesles", '⪔'), ("eqslantless", '⪕'), ("eqslantgtr", '⪖'), ("elsdot", '⪗'),
   ("egsdot", '⪘'), ("eqqless", '⪙'), ("eqqgtr", '⪚'), ("eqqslantless", '⪛'),
   ("eqqslantgtr", '⪜'), ("simless", '⪝'), ("simgtr", '⪞'), ("simlE", '⪟'), ("simgE", '⪠'),
   ("Lt", '⪡'), ("Gt", '⪢'), ("partialmeetcontraction", '⪣'), ("glj", '⪤'), ("gla", '⪥'),
   ("ltcc", '⪦'), ("gtcc", '⪧'), ("lescc", '⪨'), ("gescc", '⪩'), ("smt", '⪪'), ("lat", '⪫'),
   ("smte", '⪬'), ("late", '⪭'), ("bumpeqq", '⪮'), ("preceq", '⪯'), ("succeq", '⪰'),
   ("precneq", '⪱'), ("succneq", '⪲'), ("preceqq", '⪳'), ("succeqq", '⪴'), ("precneqq", '⪵'),
   ("succneqq", '⪶'), ("precapprox", '⪷'), ("succapprox", '⪸'), ("precnapprox", '⪹'),
   ("succnapprox", '⪺'), ("Prec", '⪻'), ("llcurly", '⪻'), ("Succ", '⪼'), ("ggcurly", '⪼'),
   ("subsetdot", '⪽'), ("supsetdot", '⪾'), ("subsetplus", '⪿'), ("supsetplus", '⫀'),
   ("submult", '⫁'), ("supmult", '⫂'), ("subedot", '⫃'), ("supedot", '⫄'), ("subseteqq", '⫅'),
   ("supseteqq", '⫆'), ("subsim", '⫇'), ("supsim", '⫈'), ("subsetapprox", '⫉'),
   ("supsetapprox", '⫊'), ("subsetneqq", '⫋'), ("varsubsetneqq", '⫋'), ("supsetneqq", '⫌'),
   ("varsupsetneqq", '⫌'), ("lsqhook", '⫍'), ("rsqhook", '⫎'), ("csub", '⫏'), ("csup", '⫐'),
   ("csube", '⫑'), ("csupe", '⫒'), ("subsup", '⫓'), ("supsub", '⫔'), ("subsub", '⫕'),
   ("supsup", '⫖'), ("suphsub", '⫗'), ("supdsub", '⫘'), ("forkv", '⫙'), ("topfork", '⫚'),
   ("mlcp", '⫛'), ("forks", '⫝̸'), ("forksnot", '⫝'), ("shortlefttack", '⫞'),
   ("shortdowntack", '⫟'), ("shortuptack", '⫠'), ("perps", '⫡'), ("vDdash", '⫢'), ("dashV", '⫣'),
   ("Dashv", '⫤'), ("DashV", '⫥'), ("varVdash", '⫦'), ("Barv", '⫧'), ("vBar", '⫨'),
   ("vBarv", '⫩'), ("barV", '⫪'), ("Vbar", '⫫'), ("Not", '⫬'), ("bNot", '⫭'), ("revnmid", '⫮'),
   ("cirmid", '⫯'), ("midcir", '⫰'), ("topcir", '⫱'), ("nhpar", '⫲'), ("parsim", '⫳'),
   ("interleave", '⫴'), ("nhVvert", '⫵'), ("threedotcolon", '⫶'), ("lllnest", '⫷'),
   ("gggnest", '⫸'), ("leqqslant", '⫹'), ("geqqslant", '⫺'), ("trslash", '⫻'),
   ("biginterleave", '⫼'), ("sslash", '⫽'), ("talloblong", '⫾'), ("bigtalloblong", '⫿')]

end Manuscript.Formula.Symbols
