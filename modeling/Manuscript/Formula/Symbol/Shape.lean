import Manuscript.Formula.Symbol.Basic

/-!
# Shapes

Corners, brackets, squares, triangles, circles, stars and signs.
-/

namespace Manuscript.Formula.Symbols

/-- Technical signs. -/
def technical : Symbols :=
  [("diameter", '⌀'), ("house", '⌂'), ("varbarwedge", '⌅'), ("doublebarwedge", '⌆'),
   ("vardoublebarwedge", '⌆'), ("lceil", '⌈'), ("rceil", '⌉'), ("lfloor", '⌊'), ("rfloor", '⌋'),
   ("invnot", '⌐'), ("sqlozenge", '⌑'), ("profline", '⌒'), ("profsurf", '⌓'), ("viewdata", '⌗'),
   ("turnednot", '⌙'), ("ulcorner", '⌜'), ("urcorner", '⌝'), ("llcorner", '⌞'), ("lrcorner", '⌟'),
   ("inttop", '⌠'), ("intbottom", '⌡'), ("frown", '⌢'), ("smallfrown", '⌢'), ("smile", '⌣'),
   ("smallsmile", '⌣'), ("varhexagonlrbonds", '⌬'), ("conictaper", '⌲'), ("topbot", '⌶'),
   ("obar", '⌽'), ("APLnotslash", '⌿'), ("APLnotbackslash", '⍀'), ("APLboxupcaret", '⍓'),
   ("APLboxquestion", '⍰'), ("rangledownzigzagarrow", '⍼'), ("hexagon", '⎔'), ("lparenuend", '⎛'),
   ("lparenextender", '⎜'), ("lparenlend", '⎝'), ("rparenuend", '⎞'), ("rparenextender", '⎟'),
   ("rparenlend", '⎠'), ("lbrackuend", '⎡'), ("lbrackextender", '⎢'), ("lbracklend", '⎣'),
   ("rbrackuend", '⎤'), ("rbrackextender", '⎥'), ("rbracklend", '⎦'), ("lbraceuend", '⎧'),
   ("lbracemid", '⎨'), ("lbracelend", '⎩'), ("vbraceextender", '⎪'), ("rbraceuend", '⎫'),
   ("rbracemid", '⎬'), ("rbracelend", '⎭'), ("intextender", '⎮'), ("harrowextender", '⎯'),
   ("lmoustache", '⎰'), ("rmoustache", '⎱'), ("sumtop", '⎲'), ("sumbottom", '⎳'),
   ("bbrktbrk", '⎶'), ("sqrtbottom", '⎷'), ("lvboxline", '⎸'), ("rvboxline", '⎹'),
   ("varcarriagereturn", '⏎'), ("obrbrak", '⏠'), ("ubrbrak", '⏡'), ("trapezium", '⏢'),
   ("benzenr", '⏣'), ("strns", '⏤'), ("fltns", '⏥'), ("accurrent", '⏦'), ("elinters", '⏧'),
   ("blanksymbol", '␢'), ("circledS", 'Ⓢ'), ("bdtriplevdash", '┆')]

/-- Squares, triangles and circles. -/
def shapes : Symbols :=
  [("diagup", '╱'), ("diagdown", '╲'), ("blockuphalf", '▀'), ("blocklowhalf", '▄'),
   ("blockfull", '█'), ("blocklefthalf", '▌'), ("blockrighthalf", '▐'), ("blockqtrshaded", '░'),
   ("blockhalfshaded", '▒'), ("blockthreeqtrshaded", '▓'), ("mdlgblksquare", '■'),
   ("mdlgwhtsquare", '□'), ("squoval", '▢'), ("blackinwhitesquare", '▣'), ("squarehfill", '▤'),
   ("squarevfill", '▥'), ("squarehvfill", '▦'), ("squarenwsefill", '▧'), ("squareneswfill", '▨'),
   ("squarecrossfill", '▩'), ("smblksquare", '▪'), ("smwhtsquare", '▫'), ("hrectangleblack", '▬'),
   ("hrectangle", '▭'), ("vrectangleblack", '▮'), ("vrectangle", '▯'),
   ("parallelogramblack", '▰'), ("parallelogram", '▱'), ("bigblacktriangleup", '▲'),
   ("bigtriangleup", '△'), ("triangle", '△'), ("vartriangle", '△'), ("blacktriangle", '▴'),
   ("blacktriangleright", '▶'), ("triangleright", '▷'), ("rhd", '▷'),
   ("smallblacktriangleright", '▸'), ("smalltriangleright", '▹'), ("blackpointerright", '►'),
   ("whitepointerright", '▻'), ("bigblacktriangledown", '▼'), ("bigtriangledown", '▽'),
   ("triangledown", '▽'), ("blacktriangledown", '▾'), ("blacktriangleleft", '◀'),
   ("triangleleft", '◁'), ("lhd", '◁'), ("smallblacktriangleleft", '◂'),
   ("smalltriangleleft", '◃'), ("blackpointerleft", '◄'), ("whitepointerleft", '◅'),
   ("mdlgblkdiamond", '◆'), ("Diamond", '◇'), ("mdlgwhtdiamond", '◇'),
   ("blackinwhitediamond", '◈'), ("fisheye", '◉'), ("lozenge", '◊'), ("mdlgwhtlozenge", '◊'),
   ("mdlgwhtcircle", '○'), ("Circle", '○'), ("dottedcircle", '◌'), ("circlevertfill", '◍'),
   ("bullseye", '◎'), ("mdlgblkcircle", '●'), ("CIRCLE", '●'), ("circlelefthalfblack", '◐'),
   ("LEFTcircle", '◐'), ("circlerighthalfblack", '◑'), ("RIGHTcircle", '◑'),
   ("circlebottomhalfblack", '◒'), ("circletophalfblack", '◓'), ("circleurquadblack", '◔'),
   ("blackcircleulquadwhite", '◕'), ("blacklefthalfcircle", '◖'), ("LEFTCIRCLE", '◖'),
   ("blackrighthalfcircle", '◗'), ("RIGHTCIRCLE", '◗'), ("inversebullet", '◘'),
   ("inversewhitecircle", '◙'), ("invwhiteupperhalfcircle", '◚'),
   ("invwhitelowerhalfcircle", '◛'), ("ularc", '◜'), ("urarc", '◝'), ("lrarc", '◞'),
   ("llarc", '◟'), ("topsemicircle", '◠'), ("botsemicircle", '◡'), ("lrblacktriangle", '◢'),
   ("llblacktriangle", '◣'), ("ulblacktriangle", '◤'), ("urblacktriangle", '◥'),
   ("smwhtcircle", '◦'), ("squareleftblack", '◧'), ("squarerightblack", '◨'),
   ("squareulblack", '◩'), ("squarelrblack", '◪'), ("boxbar", '◫'), ("trianglecdot", '◬'),
   ("triangleleftblack", '◭'), ("trianglerightblack", '◮'), ("bigcirc", '◯'),
   ("lgwhtcircle", '◯'), ("squareulquad", '◰'), ("squarellquad", '◱'), ("squarelrquad", '◲'),
   ("squareurquad", '◳'), ("circleulquad", '◴'), ("circlellquad", '◵'), ("circlelrquad", '◶'),
   ("circleurquad", '◷'), ("ultriangle", '◸'), ("urtriangle", '◹'), ("lltriangle", '◺'),
   ("square", '◻'), ("mdwhtsquare", '◻'), ("Box", '◻'), ("mdblksquare", '◼'),
   ("mdsmwhtsquare", '◽'), ("mdsmblksquare", '◾'), ("lrtriangle", '◿'), ("squaretopblack", '⬒'),
   ("squarebotblack", '⬓'), ("squareurblack", '⬔'), ("squarellblack", '⬕'),
   ("diamondleftblack", '⬖'), ("diamondrightblack", '⬗'), ("diamondtopblack", '⬘'),
   ("diamondbotblack", '⬙'), ("dottedsquare", '⬚'), ("lgblksquare", '⬛'), ("lgwhtsquare", '⬜'),
   ("centerdot", '⬝'), ("vysmblksquare", '⬝'), ("vysmwhtsquare", '⬞'), ("pentagonblack", '⬟'),
   ("pentagon", '⬠'), ("varhexagon", '⬡'), ("varhexagonblack", '⬢'), ("hexagonblack", '⬣'),
   ("lgblkcircle", '⬤'), ("mdblkdiamond", '⬥'), ("mdwhtdiamond", '⬦'), ("mdblklozenge", '⬧'),
   ("mdwhtlozenge", '⬨'), ("smblkdiamond", '⬩'), ("smblklozenge", '⬪'), ("smwhtlozenge", '⬫'),
   ("blkhorzoval", '⬬'), ("whthorzoval", '⬭'), ("blkvertoval", '⬮'), ("whtvertoval", '⬯'),
   ("medwhitestar", '⭐'), ("medblackstar", '⭑'), ("smwhitestar", '⭒'),
   ("rightpentagonblack", '⭓'), ("rightpentagon", '⭔'), ("postalmark", '〒'), ("hzigzag", '〰')]

/-- Signs. -/
def signs : Symbols :=
  [("bigstar", '★'), ("bigwhitestar", '☆'), ("astrosun", '☉'), ("danger", '☡'), ("frownie", '☹'),
   ("smiley", '☺'), ("blacksmiley", '☻'), ("sun", '☼'), ("rightmoon", '☽'), ("leftmoon", '☾'),
   ("mercury", '☿'), ("female", '♀'), ("male", '♂'), ("jupiter", '♃'), ("saturn", '♄'),
   ("uranus", '♅'), ("neptune", '♆'), ("pluto", '♇'), ("aries", '♈'), ("taurus", '♉'),
   ("gemini", '♊'), ("leo", '♌'), ("libra", '♎'), ("spadesuit", '♠'), ("heartsuit", '♡'),
   ("diamondsuit", '♢'), ("clubsuit", '♣'), ("varspadesuit", '♤'), ("varheartsuit", '♥'),
   ("vardiamondsuit", '♦'), ("varclubsuit", '♧'), ("quarternote", '♩'), ("eighthnote", '♪'),
   ("twonotes", '♫'), ("flat", '♭'), ("natural", '♮'), ("sharp", '♯'), ("acidfree", '♾'),
   ("dicei", '⚀'), ("diceii", '⚁'), ("diceiii", '⚂'), ("diceiv", '⚃'), ("dicev", '⚄'),
   ("dicevi", '⚅'), ("circledrightdot", '⚆'), ("circledtwodots", '⚇'),
   ("blackcircledrightdot", '⚈'), ("blackcircledtwodots", '⚉'), ("Hermaphrodite", '⚥'),
   ("mdwhtcircle", '⚪'), ("mdblkcircle", '⚫'), ("mdsmwhtcircle", '⚬'), ("neuter", '⚲'),
   ("checkmark", '✓'), ("maltese", '✠'), ("circledstar", '✪'), ("varstar", '✶'),
   ("dingasterisk", '✽')]

/-- Brackets. -/
def brackets : Symbols :=
  [("lbrbrak", '❲'), ("rbrbrak", '❳'), ("lbag", '⟅'), ("Lbag", '⟅'), ("rbag", '⟆'), ("Rbag", '⟆'),
   ("llbracket", '⟦'), ("lBrack", '⟦'), ("Lbrack", '⟦'), ("rrbracket", '⟧'), ("rBrack", '⟧'),
   ("Rbrack", '⟧'), ("langle", '⟨'), ("rangle", '⟩'), ("lAngle", '⟪'), ("rAngle", '⟫'),
   ("Lbrbrak", '⟬'), ("Rbrbrak", '⟭'), ("lgroup", '⟮'), ("rgroup", '⟯'), ("Vvert", '⦀'),
   ("mdsmblkcircle", '⦁'), ("typecolon", '⦂'), ("lBrace", '⦃'), ("rBrace", '⦄'), ("lParen", '⦅'),
   ("rParen", '⦆'), ("llparenthesis", '⦇'), ("rrparenthesis", '⦈'), ("llangle", '⦉'),
   ("rrangle", '⦊'), ("lbrackubar", '⦋'), ("rbrackubar", '⦌'), ("lbrackultick", '⦍'),
   ("rbracklrtick", '⦎'), ("lbracklltick", '⦏'), ("rbrackurtick", '⦐'), ("langledot", '⦑'),
   ("rangledot", '⦒'), ("lparenless", '⦓'), ("rparengtr", '⦔'), ("Lparengtr", '⦕'),
   ("Rparenless", '⦖'), ("lblkbrbrak", '⦗'), ("rblkbrbrak", '⦘'), ("lvzigzag", '⧘'),
   ("rvzigzag", '⧙'), ("Lvzigzag", '⧚'), ("Rvzigzag", '⧛'), ("lcurvyangle", '⧼'),
   ("rcurvyangle", '⧽')]

end Manuscript.Formula.Symbols
