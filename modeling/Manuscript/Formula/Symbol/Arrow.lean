import Manuscript.Formula.Symbol.Basic

/-!
# Arrows

Arrows and harpoons, with the strokes, tails and heads they may have.
-/

namespace Manuscript.Formula.Symbols

/-- The common arrows. -/
def arrows : Symbols :=
  [("leftarrow", '←'), ("gets", '←'), ("uparrow", '↑'), ("rightarrow", '→'), ("to", '→'),
   ("downarrow", '↓'), ("leftrightarrow", '↔'), ("updownarrow", '↕'), ("nwarrow", '↖'),
   ("nearrow", '↗'), ("searrow", '↘'), ("swarrow", '↙'), ("nleftarrow", '↚'),
   ("nrightarrow", '↛'), ("leftwavearrow", '↜'), ("rightwavearrow", '↝'),
   ("twoheadleftarrow", '↞'), ("twoheaduparrow", '↟'), ("twoheadrightarrow", '↠'),
   ("twoheaddownarrow", '↡'), ("leftarrowtail", '↢'), ("rightarrowtail", '↣'), ("mapsfrom", '↤'),
   ("mapsup", '↥'), ("mapsto", '↦'), ("mapsdown", '↧'), ("updownarrowbar", '↨'),
   ("hookleftarrow", '↩'), ("hookrightarrow", '↪'), ("looparrowleft", '↫'),
   ("looparrowright", '↬'), ("leftrightsquigarrow", '↭'), ("nleftrightarrow", '↮'),
   ("downzigzagarrow", '↯'), ("lightning", '↯'), ("Lsh", '↰'), ("Rsh", '↱'), ("Ldsh", '↲'),
   ("Rdsh", '↳'), ("linefeed", '↴'), ("carriagereturn", '↵'), ("curvearrowleft", '↶'),
   ("curvearrowright", '↷'), ("barovernorthwestarrow", '↸'), ("barleftarrowrightarrowbar", '↹'),
   ("circlearrowleft", '↺'), ("acwopencirclearrow", '↺'), ("circlearrowright", '↻'),
   ("cwopencirclearrow", '↻'), ("leftharpoonup", '↼'), ("leftharpoondown", '↽'),
   ("upharpoonright", '↾'), ("restriction", '↾'), ("upharpoonleft", '↿'), ("rightharpoonup", '⇀'),
   ("rightharpoondown", '⇁'), ("downharpoonright", '⇂'), ("downharpoonleft", '⇃'),
   ("rightleftarrows", '⇄'), ("updownarrows", '⇅'), ("leftrightarrows", '⇆'),
   ("leftleftarrows", '⇇'), ("upuparrows", '⇈'), ("rightrightarrows", '⇉'),
   ("downdownarrows", '⇊'), ("leftrightharpoons", '⇋'), ("rightleftharpoons", '⇌'),
   ("nLeftarrow", '⇍'), ("nLeftrightarrow", '⇎'), ("nRightarrow", '⇏'), ("Leftarrow", '⇐'),
   ("Uparrow", '⇑'), ("Rightarrow", '⇒'), ("Downarrow", '⇓'), ("Leftrightarrow", '⇔'),
   ("iff", '⇔'), ("Updownarrow", '⇕'), ("Nwarrow", '⇖'), ("Nearrow", '⇗'), ("Searrow", '⇘'),
   ("Swarrow", '⇙'), ("Lleftarrow", '⇚'), ("Rrightarrow", '⇛'), ("leftsquigarrow", '⇜'),
   ("rightsquigarrow", '⇝'), ("nHuparrow", '⇞'), ("nHdownarrow", '⇟'), ("dashleftarrow", '⇠'),
   ("leftdasharrow", '⇠'), ("updasharrow", '⇡'), ("dashrightarrow", '⇢'), ("rightdasharrow", '⇢'),
   ("dasharrow", '⇢'), ("downdasharrow", '⇣'), ("barleftarrow", '⇤'), ("rightarrowbar", '⇥'),
   ("leftwhitearrow", '⇦'), ("upwhitearrow", '⇧'), ("rightwhitearrow", '⇨'),
   ("downwhitearrow", '⇩'), ("whitearrowupfrombar", '⇪'), ("circleonrightarrow", '⇴'),
   ("downuparrows", '⇵'), ("rightthreearrows", '⇶'), ("nvleftarrow", '⇷'), ("nvrightarrow", '⇸'),
   ("nvleftrightarrow", '⇹'), ("nVleftarrow", '⇺'), ("nVrightarrow", '⇻'),
   ("nVleftrightarrow", '⇼'), ("leftarrowtriangle", '⇽'), ("rightarrowtriangle", '⇾'),
   ("leftrightarrowtriangle", '⇿')]

/-- Long arrows. -/
def longArrows : Symbols :=
  [("UUparrow", '⟰'), ("DDownarrow", '⟱'), ("acwgapcirclearrow", '⟲'), ("cwgapcirclearrow", '⟳'),
   ("rightarrowonoplus", '⟴'), ("longleftarrow", '⟵'), ("longrightarrow", '⟶'),
   ("longleftrightarrow", '⟷'), ("Longleftarrow", '⟸'), ("impliedby", '⟸'),
   ("Longrightarrow", '⟹'), ("implies", '⟹'), ("Longleftrightarrow", '⟺'), ("longmapsfrom", '⟻'),
   ("longmapsto", '⟼'), ("Longmapsfrom", '⟽'), ("Longmapsto", '⟾'), ("longrightsquigarrow", '⟿')]

/-- Other arrows. -/
def otherArrows : Symbols :=
  [("nvtwoheadrightarrow", '⤀'), ("nVtwoheadrightarrow", '⤁'), ("nvLeftarrow", '⤂'),
   ("nvRightarrow", '⤃'), ("nvLeftrightarrow", '⤄'), ("twoheadmapsto", '⤅'), ("Mapsfrom", '⤆'),
   ("Mapsto", '⤇'), ("downarrowbarred", '⤈'), ("uparrowbarred", '⤉'), ("Uuparrow", '⤊'),
   ("Ddownarrow", '⤋'), ("leftbkarrow", '⤌'), ("rightbkarrow", '⤍'), ("leftdbkarrow", '⤎'),
   ("dbkarrow", '⤏'), ("rightdbkarrow", '⤏'), ("drbkarrow", '⤐'), ("rightdotarrow", '⤑'),
   ("baruparrow", '⤒'), ("downarrowbar", '⤓'), ("nvrightarrowtail", '⤔'),
   ("nVrightarrowtail", '⤕'), ("twoheadrightarrowtail", '⤖'), ("nvtwoheadrightarrowtail", '⤗'),
   ("nVtwoheadrightarrowtail", '⤘'), ("lefttail", '⤙'), ("righttail", '⤚'), ("leftdbltail", '⤛'),
   ("rightdbltail", '⤜'), ("diamondleftarrow", '⤝'), ("rightarrowdiamond", '⤞'),
   ("diamondleftarrowbar", '⤟'), ("barrightarrowdiamond", '⤠'), ("nwsearrow", '⤡'),
   ("neswarrow", '⤢'), ("hknwarrow", '⤣'), ("hknearrow", '⤤'), ("hksearrow", '⤥'),
   ("hkswarrow", '⤦'), ("tona", '⤧'), ("toea", '⤨'), ("tosa", '⤩'), ("towa", '⤪'),
   ("rdiagovfdiag", '⤫'), ("fdiagovrdiag", '⤬'), ("seovnearrow", '⤭'), ("neovsearrow", '⤮'),
   ("fdiagovnearrow", '⤯'), ("rdiagovsearrow", '⤰'), ("neovnwarrow", '⤱'), ("nwovnearrow", '⤲'),
   ("leadsto", '⤳'), ("rightcurvedarrow", '⤳'), ("uprightcurvearrow", '⤴'),
   ("downrightcurvedarrow", '⤵'), ("leftdowncurvedarrow", '⤶'), ("rightdowncurvedarrow", '⤷'),
   ("cwrightarcarrow", '⤸'), ("acwleftarcarrow", '⤹'), ("acwoverarcarrow", '⤺'),
   ("acwunderarcarrow", '⤻'), ("curvearrowrightminus", '⤼'), ("curvearrowleftplus", '⤽'),
   ("cwundercurvearrow", '⤾'), ("ccwundercurvearrow", '⤿'), ("acwcirclearrow", '⥀'),
   ("cwcirclearrow", '⥁'), ("rightarrowshortleftarrow", '⥂'), ("leftarrowshortrightarrow", '⥃'),
   ("shortrightarrowleftarrow", '⥄'), ("rightarrowplus", '⥅'), ("leftarrowplus", '⥆'),
   ("rightarrowx", '⥇'), ("leftrightarrowcircle", '⥈'), ("twoheaduparrowcircle", '⥉'),
   ("leftrightharpoonupdown", '⥊'), ("leftrightharpoondownup", '⥋'),
   ("updownharpoonrightleft", '⥌'), ("updownharpoonleftright", '⥍'),
   ("leftrightharpoonupup", '⥎'), ("updownharpoonrightright", '⥏'),
   ("leftrightharpoondowndown", '⥐'), ("updownharpoonleftleft", '⥑'), ("barleftharpoonup", '⥒'),
   ("rightharpoonupbar", '⥓'), ("barupharpoonright", '⥔'), ("downharpoonrightbar", '⥕'),
   ("barleftharpoondown", '⥖'), ("rightharpoondownbar", '⥗'), ("barupharpoonleft", '⥘'),
   ("downharpoonleftbar", '⥙'), ("leftharpoonupbar", '⥚'), ("barrightharpoonup", '⥛'),
   ("upharpoonrightbar", '⥜'), ("bardownharpoonright", '⥝'), ("leftharpoondownbar", '⥞'),
   ("barrightharpoondown", '⥟'), ("upharpoonleftbar", '⥠'), ("bardownharpoonleft", '⥡'),
   ("leftharpoonsupdown", '⥢'), ("upharpoonsleftright", '⥣'), ("rightharpoonsupdown", '⥤'),
   ("downharpoonsleftright", '⥥'), ("leftrightharpoonsup", '⥦'), ("leftrightharpoonsdown", '⥧'),
   ("rightleftharpoonsup", '⥨'), ("rightleftharpoonsdown", '⥩'), ("leftharpoonupdash", '⥪'),
   ("dashleftharpoondown", '⥫'), ("rightharpoonupdash", '⥬'), ("dashrightharpoondown", '⥭'),
   ("updownharpoonsleftright", '⥮'), ("downupharpoonsleftright", '⥯'), ("rightimply", '⥰'),
   ("equalrightarrow", '⥱'), ("similarrightarrow", '⥲'), ("leftarrowsimilar", '⥳'),
   ("rightarrowsimilar", '⥴'), ("rightarrowapprox", '⥵'), ("ltlarr", '⥶'), ("leftarrowless", '⥷'),
   ("gtrarr", '⥸'), ("subrarr", '⥹'), ("leftarrowsubset", '⥺'), ("suplarr", '⥻'),
   ("leftfishtail", '⥼'), ("rightfishtail", '⥽'), ("upfishtail", '⥾'), ("downfishtail", '⥿'),
   ("draftingarrow", '➛'), ("circleonleftarrow", '⬰'), ("leftthreearrows", '⬱'),
   ("leftarrowonoplus", '⬲'), ("longleftsquigarrow", '⬳'), ("nvtwoheadleftarrow", '⬴'),
   ("nVtwoheadleftarrow", '⬵'), ("twoheadmapsfrom", '⬶'), ("twoheadleftdbkarrow", '⬷'),
   ("leftdotarrow", '⬸'), ("nvleftarrowtail", '⬹'), ("nVleftarrowtail", '⬺'),
   ("twoheadleftarrowtail", '⬻'), ("nvtwoheadleftarrowtail", '⬼'),
   ("nVtwoheadleftarrowtail", '⬽'), ("leftarrowx", '⬾'), ("leftcurvedarrow", '⬿'),
   ("equalleftarrow", '⭀'), ("bsimilarleftarrow", '⭁'), ("leftarrowbackapprox", '⭂'),
   ("rightarrowgtr", '⭃'), ("rightarrowsupset", '⭄'), ("LLeftarrow", '⭅'), ("RRightarrow", '⭆'),
   ("bsimilarrightarrow", '⭇'), ("rightarrowbackapprox", '⭈'), ("similarleftarrow", '⭉'),
   ("leftarrowapprox", '⭊'), ("leftarrowbsimilar", '⭋'), ("rightarrowbsimilar", '⭌')]

end Manuscript.Formula.Symbols
