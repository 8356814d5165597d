/-!
What a variant of the shifted Japanese set adds and changes, by its first and second byte.
-/

namespace Warden.Text.CharacterSet

def cp932Signs : Array (Nat × String) := #[
  (0x8160, "～∥"),
  (0x817C, "－"),
  (0x8191, "￠￡"),
  (0x81CA, "￢"),
  (0x8740, "①②③④⑤⑥⑦⑧⑨⑩⑪⑫⑬⑭⑮⑯⑰⑱⑲⑳ⅠⅡⅢⅣⅤⅥⅦⅧⅨⅩ�㍉㌔㌢㍍㌘㌧㌃㌶㍑㍗㌍㌦㌣㌫㍊㌻"),
  (0x876F, "㎜㎝㎞㎎㎏㏄㎡"),
  (0x877E, "㍻�〝〟№㏍℡㊤㊥㊦㊧㊨㈱㈲㈹㍾㍽㍼≒≡∫∮∑√⊥∠∟⊿∵∩∪"),
  (0xED40, "纊褜鍈銈蓜俉炻昱棈鋹曻彅丨仡仼伀伃伹佖侒侊侚侔俍偀倢俿倞偆偰偂傔僴僘兊兤冝冾凬刕劜劦勀勛匀匇匤"),
  (0xED6F, "卲厓厲叝﨎咜咊咩哿喆坙坥垬埈埇﨏�\ufa10增墲夋奓奛奝奣妤妺孖寀甯寘寬尞岦岺峵崧嵓﨑嵂嵭嶸嶹巐弡弴彧"),
  (0xED9E, "德忞恝悅悊惞惕愠惲愑愷愰憘戓抦揵摠撝擎敎昀昕昻昉昮昞昤晥晗晙\ufa12晳暙暠暲暿曺朎\uf929杦枻桒柀栁桄棏﨓"),
  (0xEDCD, "楨﨔榘槢樰橫橆橳橾櫢櫤毖氿汜沆汯泚洄涇浯涖涬淏淸淲淼渹湜渧渼溿澈澵濵瀅瀇瀨炅炫焏焄煜煆煇\ufa15燁燾"),
  (0xEDFC, "犱"),
  (0xEE40, "犾猤\ufa16獷玽珉珖珣珒琇珵琦琪琩琮瑢璉璟甁畯皂皜皞皛皦\ufa17睆劯砡硎硤硺礰\ufa18\ufa19\ufa1a禔\ufa1b禛竑竧\ufa1c竫箞" ++
    "\ufa1d絈絜"),
  (0xEE6F, "綷綠緖繒罇羡\ufa1e茁荢荿菇菶葈蒴蕓蕙�蕫﨟薰\ufa20﨡蠇裵訒訷詹誧誾諟\ufa22諶譓譿賰賴贒赶﨣軏﨤\ufa25遧郞\ufa26鄕鄧"),
  (0xEE9E, "釚釗釞釭釮釤釥鈆鈐鈊鈺鉀鈼鉎鉙鉑鈹鉧銧鉷鉸鋧鋗鋙鋐﨧鋕鋠鋓錥錡鋻﨨錞鋿錝錂鍰鍗鎤鏆鏞鏸鐱鑅鑈閒"),
  (0xEECD, "\uf9dc﨩隝隯霳霻靃靍靏靑靕顗顥\ufa2a\ufa2b餧\ufa2c馞驎髙髜魵魲鮏鮱鮻鰀鵰鵫\ufa2d鸙黑��ⅰⅱⅲⅳⅴⅵⅶⅷⅸⅹ￢￤＇"),
  (0xEEFC, "＂"),
  (0xFA40, "ⅰⅱⅲⅳⅴⅵⅶⅷⅸⅹⅠⅡⅢⅣⅤⅥⅦⅧⅨⅩ￢￤＇＂㈱№℡∵纊褜鍈銈蓜俉炻昱棈鋹曻彅丨仡仼伀伃伹佖"),
  (0xFA6F, "侒侊侚侔俍偀倢俿倞偆偰偂傔僴僘兊�兤冝冾凬刕劜劦勀勛匀匇匤卲厓厲叝﨎咜咊咩哿喆坙坥垬埈埇﨏\ufa10增"),
  (0xFA9E, "墲夋奓奛奝奣妤妺孖寀甯寘寬尞岦岺峵崧嵓﨑嵂嵭嶸嶹巐弡弴彧德忞恝悅悊惞惕愠惲愑愷愰憘戓抦揵摠撝擎"),
  (0xFACD, "敎昀昕昻昉昮昞昤晥晗晙\ufa12晳暙暠暲暿曺朎\uf929杦枻桒柀栁桄棏﨓楨﨔榘槢樰橫橆橳橾櫢櫤毖氿汜沆汯泚洄涇"),
  (0xFAFC, "浯"),
  (0xFB40, "涖涬淏淸淲淼渹湜渧渼溿澈澵濵瀅瀇瀨炅炫焏焄煜煆煇\ufa15燁燾犱犾猤\ufa16獷玽珉珖珣珒琇珵琦琪琩琮瑢璉璟甁"),
  (0xFB6F, "畯皂皜皞皛皦\ufa17睆劯砡硎硤硺礰\ufa18\ufa19�\ufa1a禔\ufa1b禛竑竧\ufa1c竫箞\ufa1d絈絜綷綠緖繒罇羡\ufa1e茁荢荿菇菶" ++
    "葈蒴蕓蕙蕫﨟"),
  (0xFB9E, "薰\ufa20﨡蠇裵訒訷詹誧誾諟\ufa22諶譓譿賰賴贒赶﨣軏﨤\ufa25遧郞\ufa26鄕鄧釚釗釞釭釮釤釥鈆鈐鈊鈺鉀鈼鉎鉙鉑鈹鉧銧"),
  (0xFBCD, "鉷鉸鋧鋗鋙鋐﨧鋕鋠鋓錥錡鋻﨨錞鋿錝錂鍰鍗鎤鏆鏞鏸鐱鑅鑈閒\uf9dc﨩隝隯霳霻靃靍靏靑靕顗顥\ufa2a\ufa2b餧\ufa2c馞驎"),
  (0xFBFC, "髙"),
  (0xFC40, "髜魵魲鮏鮱鮻鰀鵰鵫\ufa2d鸙黑")]

end Warden.Text.CharacterSet
