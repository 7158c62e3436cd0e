import ApiTypes.Encoding.CharacterSet

/-!
# Additions to the Chinese set in short forms

What GBK adds to GB 2312 and what GB 18030 adds to that, in rows of 190 cells,
but for the ideographs that stand in the order of their code points.
-/

set_option autoImplicit false

namespace ApiTypes.Encoding

def gbkSigns : CharacterSet := .ofRuns 190
  [(33, 100, "·"), (33, 106, "—"), (34, 97, "ⅰⅱⅲⅳⅴⅵⅶⅷⅸⅹ"), (38, 160, "︵︶︹︺︿﹀︽︾﹁﹂﹃﹄��︻︼︷︸︱�︳︴"),
   (40, 1, "ˊˋ˙–―‥‵℅℉↖↗↘↙∕∟∣≒≦≧⊿═║╒╓╔╕╖╗╘╙╚╛╜╝╞╟╠╡╢╣╤╥╦╧╨╩╪╫╬╭╮╯╰╱╲╳▁▂▃▄▅▆▇█▉▊▋▌▍▎▏▓▔▕▼▽◢" ++
     "◣◤◥☉⊕〒〝〞"),
   (40, 123, "ɑ�ńň�ɡ"),
   (41, 1, "〡〢〣〤〥〦〧〨〩㊣㎎㎏㎜㎝㎞㎡㏄㏎㏑㏒㏕︰￢￤�℡㈱�‐���ー゛゜ヽヾ〆ゝゞ﹉﹊﹋﹌﹍﹎﹏﹐﹑﹒﹔﹕﹖﹗﹙﹚﹛﹜﹝﹞﹟﹠﹡﹢﹣﹤﹥﹦﹨﹩﹪﹫"),
   (41, 86, "〇"), (125, 92, "郎凉秊裏隣"), (126, 1, "兀嗀﨎﨏﨑﨓﨔礼﨟蘒﨡﨣﨤﨧﨨﨩")]

def gb18030Signs : CharacterSet := .ofRuns 190
  [(34, 163, "€"), (40, 127, "ǹ"), (41, 73, "〾⿰⿱⿲⿳⿴⿵⿶⿷⿸⿹⿺⿻"),
   (126, 17, "⺁���⺄㑳㑇⺈⺋�㖞㘚㘎⺌⺗㥮㤘�㧏㧟㩳㧐��㭎㱮㳠⺧��⺪䁖䅟⺮䌷⺳⺶⺷�䎱䎬⺻䏝䓖䙡䙌�䜣䜩䝼䞍⻊䥇䥺䥽䦂䦃䦅䦆䦟䦛䦷䦶��䲣䲟䲠䲡䱷䲢䴓䴔䴕䴖" ++
     "䴗䴘䴙䶮")]

end ApiTypes.Encoding
