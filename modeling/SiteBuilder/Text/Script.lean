import SiteBuilder.Text.Table

/-!
# Scripts

The script of every code point, as runs from zero on with their lengths in hexadecimal digits and
the four-letter codes of the scripts, and the names of the codes.
-/

namespace SiteBuilder.Text

/-- The runs of equal scripts. -/
def scriptText : String :=
  "41:Zyyy 1A:Latn 6:Zyyy 1A:Latn 2F:Zyyy 1:Latn F:Zyyy 1:Latn 5:Zyyy 17:Latn 1:Zyyy 1F:Latn " ++
  "1:Zyyy 1C1:Latn 27:Zyyy 5:Latn 5:Zyyy 2:Bopo 14:Zyyy 70:Zinh 4:Grek 1:Zyyy 3:Grek 2:Zzzz " ++
  "4:Grek 1:Zyyy 1:Grek 4:Zzzz 1:Grek 1:Zyyy 1:Grek 1:Zyyy 3:Grek 1:Zzzz 1:Grek 1:Zzzz 14:Grek " ++
  "1:Zzzz 3F:Grek E:Copt 10:Grek 85:Cyrl 2:Zinh A9:Cyrl 1:Zzzz 26:Armn 2:Zzzz 32:Armn 2:Zzzz " ++
  "3:Armn 1:Zzzz 37:Hebr 8:Zzzz 1B:Hebr 4:Zzzz 6:Hebr B:Zzzz 5:Arab 1:Zyyy 6:Arab 1:Zyyy E:Arab " ++
  "1:Zyyy 3:Arab 1:Zyyy 20:Arab 1:Zyyy A:Arab B:Zinh 1A:Arab 1:Zinh 6C:Arab 1:Zyyy 22:Arab E:Syrc " ++
  "1:Zzzz 3C:Syrc 2:Zzzz 3:Syrc 30:Arab 32:Thaa E:Zzzz 3B:Nkoo 2:Zzzz 3:Nkoo 2E:Samr 2:Zzzz " ++
  "F:Samr 1:Zzzz 1C:Mand 2:Zzzz 1:Mand 1:Zzzz B:Syrc 5:Zzzz 1F:Arab 1:Zzzz 2:Arab 6:Zzzz 4A:Arab " ++
  "1:Zyyy 1D:Arab 51:Deva 4:Zinh F:Deva 2:Zyyy 1A:Deva 4:Beng 1:Zzzz 8:Beng 2:Zzzz 2:Beng 2:Zzzz " ++
  "16:Beng 1:Zzzz 7:Beng 1:Zzzz 1:Beng 3:Zzzz 4:Beng 2:Zzzz 9:Beng 2:Zzzz 2:Beng 2:Zzzz 4:Beng " ++
  "8:Zzzz 1:Beng 4:Zzzz 2:Beng 1:Zzzz 5:Beng 2:Zzzz 19:Beng 2:Zzzz 3:Guru 1:Zzzz 6:Guru 4:Zzzz " ++
  "2:Guru 2:Zzzz 16:Guru 1:Zzzz 7:Guru 1:Zzzz 2:Guru 1:Zzzz 2:Guru 1:Zzzz 2:Guru 2:Zzzz 1:Guru " ++
  "1:Zzzz 5:Guru 4:Zzzz 2:Guru 2:Zzzz 3:Guru 3:Zzzz 1:Guru 7:Zzzz 4:Guru 1:Zzzz 1:Guru 7:Zzzz " ++
  "11:Guru A:Zzzz 3:Gujr 1:Zzzz 9:Gujr 1:Zzzz 3:Gujr 1:Zzzz 16:Gujr 1:Zzzz 7:Gujr 1:Zzzz 2:Gujr " ++
  "1:Zzzz 5:Gujr 2:Zzzz A:Gujr 1:Zzzz 3:Gujr 1:Zzzz 3:Gujr 2:Zzzz 1:Gujr F:Zzzz 4:Gujr 2:Zzzz " ++
  "C:Gujr 7:Zzzz 7:Gujr 1:Zzzz 3:Orya 1:Zzzz 8:Orya 2:Zzzz 2:Orya 2:Zzzz 16:Orya 1:Zzzz 7:Orya " ++
  "1:Zzzz 2:Orya 1:Zzzz 5:Orya 2:Zzzz 9:Orya 2:Zzzz 2:Orya 2:Zzzz 3:Orya 7:Zzzz 3:Orya 4:Zzzz " ++
  "2:Orya 1:Zzzz 5:Orya 2:Zzzz 12:Orya A:Zzzz 2:Taml 1:Zzzz 6:Taml 3:Zzzz 3:Taml 1:Zzzz 4:Taml " ++
  "3:Zzzz 2:Taml 1:Zzzz 1:Taml 1:Zzzz 2:Taml 3:Zzzz 2:Taml 3:Zzzz 3:Taml 3:Zzzz C:Taml 4:Zzzz " ++
  "5:Taml 3:Zzzz 3:Taml 1:Zzzz 4:Taml 2:Zzzz 1:Taml 6:Zzzz 1:Taml E:Zzzz 15:Taml 5:Zzzz D:Telu " ++
  "1:Zzzz 3:Telu 1:Zzzz 17:Telu 1:Zzzz 10:Telu 2:Zzzz 9:Telu 1:Zzzz 3:Telu 1:Zzzz 4:Telu 7:Zzzz " ++
  "2:Telu 1:Zzzz 3:Telu 2:Zzzz 1:Telu 2:Zzzz 4:Telu 2:Zzzz A:Telu 7:Zzzz 9:Telu D:Knda 1:Zzzz " ++
  "3:Knda 1:Zzzz 17:Knda 1:Zzzz A:Knda 1:Zzzz 5:Knda 2:Zzzz 9:Knda 1:Zzzz 3:Knda 1:Zzzz 4:Knda " ++
  "7:Zzzz 2:Knda 6:Zzzz 2:Knda 1:Zzzz 4:Knda 2:Zzzz A:Knda 1:Zzzz 3:Knda C:Zzzz D:Mlym 1:Zzzz " ++
  "3:Mlym 1:Zzzz 33:Mlym 1:Zzzz 3:Mlym 1:Zzzz 6:Mlym 4:Zzzz 10:Mlym 2:Zzzz 1A:Mlym 1:Zzzz 3:Sinh " ++
  "1:Zzzz 12:Sinh 3:Zzzz 18:Sinh 1:Zzzz 9:Sinh 1:Zzzz 1:Sinh 2:Zzzz 7:Sinh 3:Zzzz 1:Sinh 4:Zzzz " ++
  "6:Sinh 1:Zzzz 1:Sinh 1:Zzzz 8:Sinh 6:Zzzz A:Sinh 2:Zzzz 3:Sinh C:Zzzz 3A:Thai 4:Zzzz 1:Zyyy " ++
  "1C:Thai 25:Zzzz 2:Laoo 1:Zzzz 1:Laoo 1:Zzzz 5:Laoo 1:Zzzz 18:Laoo 1:Zzzz 1:Laoo 1:Zzzz 17:Laoo " ++
  "2:Zzzz 5:Laoo 1:Zzzz 1:Laoo 1:Zzzz 7:Laoo 1:Zzzz A:Laoo 2:Zzzz 4:Laoo 20:Zzzz 48:Tibt 1:Zzzz " ++
  "24:Tibt 4:Zzzz 27:Tibt 1:Zzzz 24:Tibt 1:Zzzz F:Tibt 1:Zzzz 7:Tibt 4:Zyyy 2:Tibt 25:Zzzz " ++
  "A0:Mymr 26:Geor 1:Zzzz 1:Geor 5:Zzzz 1:Geor 2:Zzzz 2B:Geor 1:Zyyy 4:Geor 100:Hang 49:Ethi " ++
  "1:Zzzz 4:Ethi 2:Zzzz 7:Ethi 1:Zzzz 1:Ethi 1:Zzzz 4:Ethi 2:Zzzz 29:Ethi 1:Zzzz 4:Ethi 2:Zzzz " ++
  "21:Ethi 1:Zzzz 4:Ethi 2:Zzzz 7:Ethi 1:Zzzz 1:Ethi 1:Zzzz 4:Ethi 2:Zzzz F:Ethi 1:Zzzz 39:Ethi " ++
  "1:Zzzz 4:Ethi 2:Zzzz 43:Ethi 2:Zzzz 20:Ethi 3:Zzzz 1A:Ethi 6:Zzzz 56:Cher 2:Zzzz 6:Cher 2:Zzzz " ++
  "280:Cans 1D:Ogam 3:Zzzz 4B:Runr 3:Zyyy B:Runr 7:Zzzz 16:Tglg 9:Zzzz 1:Tglg 15:Hano 2:Zyyy " ++
  "9:Zzzz 14:Buhd C:Zzzz D:Tagb 1:Zzzz 3:Tagb 1:Zzzz 2:Tagb C:Zzzz 5E:Khmr 2:Zzzz A:Khmr 6:Zzzz " ++
  "A:Khmr 6:Zzzz 2:Mong 2:Zyyy 1:Mong 1:Zyyy 14:Mong 6:Zzzz 59:Mong 7:Zzzz 2B:Mong 5:Zzzz 46:Cans " ++
  "A:Zzzz 1F:Limb 1:Zzzz C:Limb 4:Zzzz C:Limb 4:Zzzz 1:Limb 3:Zzzz C:Limb 1E:Tale 2:Zzzz 5:Tale " ++
  "B:Zzzz 2C:Talu 4:Zzzz 1A:Talu 6:Zzzz B:Talu 3:Zzzz 2:Talu 20:Khmr 1C:Bugi 2:Zzzz 2:Bugi " ++
  "3F:Lana 1:Zzzz 1D:Lana 2:Zzzz B:Lana 6:Zzzz A:Lana 6:Zzzz E:Lana 2:Zzzz 1F:Zinh 31:Zzzz " ++
  "4D:Bali 3:Zzzz 2F:Bali 1:Zzzz 40:Sund 34:Batk 8:Zzzz 4:Batk 38:Lepc 3:Zzzz F:Lepc 3:Zzzz " ++
  "3:Lepc 30:Olck 9:Cyrl 7:Zzzz 2B:Geor 2:Zzzz 3:Geor 8:Sund 8:Zzzz 3:Zinh 1:Zyyy D:Zinh 1:Zyyy " ++
  "7:Zinh 4:Zyyy 1:Zinh 6:Zyyy 1:Zinh 3:Zyyy 2:Zinh 1:Zyyy 5:Zzzz 26:Latn 5:Grek 1:Cyrl 31:Latn " ++
  "5:Grek 4:Latn 5:Grek D:Latn 1:Cyrl 46:Latn 1:Grek 40:Zinh 100:Latn 16:Grek 2:Zzzz 6:Grek " ++
  "2:Zzzz 26:Grek 2:Zzzz 6:Grek 2:Zzzz 8:Grek 1:Zzzz 1:Grek 1:Zzzz 1:Grek 1:Zzzz 1:Grek 1:Zzzz " ++
  "1F:Grek 2:Zzzz 35:Grek 1:Zzzz F:Grek 1:Zzzz E:Grek 2:Zzzz 6:Grek 1:Zzzz 13:Grek 2:Zzzz 3:Grek " ++
  "1:Zzzz 9:Grek 1:Zzzz C:Zyyy 2:Zinh 57:Zyyy 1:Zzzz B:Zyyy 1:Latn 2:Zzzz B:Zyyy 1:Latn F:Zyyy " ++
  "1:Zzzz D:Latn 3:Zzzz 21:Zyyy F:Zzzz 21:Zinh F:Zzzz 26:Zyyy 1:Grek 3:Zyyy 2:Latn 6:Zyyy 1:Latn " ++
  "1B:Zyyy 1:Latn 11:Zyyy 29:Latn 3:Zyyy 4:Zzzz 297:Zyyy 19:Zzzz B:Zyyy 15:Zzzz 3A0:Zyyy 100:Brai " ++
  "274:Zyyy 2:Zzzz 20:Zyyy 1:Zzzz 69:Zyyy 60:Glag 20:Latn 74:Copt 5:Zzzz 7:Copt 26:Geor 1:Zzzz " ++
  "1:Geor 5:Zzzz 1:Geor 2:Zzzz 38:Tfng 7:Zzzz 2:Tfng E:Zzzz 1:Tfng 17:Ethi 9:Zzzz 7:Ethi 1:Zzzz " ++
  "7:Ethi 1:Zzzz 7:Ethi 1:Zzzz 7:Ethi 1:Zzzz 7:Ethi 1:Zzzz 7:Ethi 1:Zzzz 7:Ethi 1:Zzzz 7:Ethi " ++
  "1:Zzzz 20:Cyrl 5E:Zyyy 22:Zzzz 1A:Hani 1:Zzzz 59:Hani C:Zzzz D6:Hani 1A:Zzzz C:Zyyy 4:Zzzz " ++
  "5:Zyyy 1:Hani 1:Zyyy 1:Hani 19:Zyyy 9:Hani 4:Zinh 2:Hang 8:Zyyy 4:Hani 4:Zyyy 1:Zzzz 56:Hira " ++
  "2:Zzzz 2:Zinh 2:Zyyy 3:Hira 1:Zyyy 5A:Kana 2:Zyyy 3:Kana 5:Zzzz 2B:Bopo 1:Zzzz 5E:Hang 1:Zzzz " ++
  "10:Zyyy 20:Bopo 24:Zyyy C:Zzzz 10:Kana 1F:Hang 1:Zzzz 40:Zyyy 1F:Hang 51:Zyyy 2F:Kana 1:Zyyy " ++
  "58:Kana A8:Zyyy 19C0:Hani 40:Zyyy 5200:Hani 48D:Yiii 3:Zzzz 37:Yiii 9:Zzzz 30:Lisu 12C:Vaii " ++
  "14:Zzzz 60:Cyrl 58:Bamu 8:Zzzz 22:Zyyy 66:Latn 3:Zyyy 40:Latn 5:Zzzz 2:Latn 1:Zzzz 1:Latn " ++
  "1:Zzzz 5:Latn 18:Zzzz E:Latn 2D:Sylo 3:Zzzz A:Zyyy 6:Zzzz 38:Phag 8:Zzzz 46:Saur 8:Zzzz C:Saur " ++
  "6:Zzzz 20:Deva 2E:Kali 1:Zyyy 1:Kali 24:Rjng B:Zzzz 1:Rjng 1D:Hang 3:Zzzz 4E:Java 1:Zzzz " ++
  "1:Zyyy A:Java 4:Zzzz 2:Java 1F:Mymr 1:Zzzz 37:Cham 9:Zzzz E:Cham 2:Zzzz A:Cham 2:Zzzz 4:Cham " ++
  "20:Mymr 43:Tavt 18:Zzzz 5:Tavt 17:Mtei A:Zzzz 6:Ethi 2:Zzzz 6:Ethi 2:Zzzz 6:Ethi 9:Zzzz 7:Ethi " ++
  "1:Zzzz 7:Ethi 1:Zzzz 2B:Latn 1:Zyyy 9:Latn 1:Grek 4:Latn 2:Zyyy 4:Zzzz 50:Cher 2E:Mtei 2:Zzzz " ++
  "A:Mtei 6:Zzzz 2BA4:Hang C:Zzzz 17:Hang 4:Zzzz 31:Hang 2104:Zzzz 16E:Hani 2:Zzzz 6A:Hani " ++
  "26:Zzzz 7:Latn C:Zzzz 5:Armn 5:Zzzz 1A:Hebr 1:Zzzz 5:Hebr 1:Zzzz 1:Hebr 1:Zzzz 2:Hebr 1:Zzzz " ++
  "2:Hebr 1:Zzzz A:Hebr 73:Arab 10:Zzzz 16B:Arab 2:Zyyy 50:Arab 2:Zzzz 36:Arab 7:Zzzz 1:Arab " ++
  "20:Zzzz 10:Arab 10:Zinh A:Zyyy 6:Zzzz E:Zinh 2:Cyrl 23:Zyyy 1:Zzzz 13:Zyyy 1:Zzzz 4:Zyyy " ++
  "4:Zzzz 5:Arab 1:Zzzz 87:Arab 2:Zzzz 1:Zyyy 1:Zzzz 20:Zyyy 1A:Latn 6:Zyyy 1A:Latn B:Zyyy A:Kana " ++
  "1:Zyyy 2D:Kana 2:Zyyy 1F:Hang 3:Zzzz 6:Hang 2:Zzzz 6:Hang 2:Zzzz 6:Hang 2:Zzzz 3:Hang 3:Zzzz " ++
  "7:Zyyy 1:Zzzz 7:Zyyy A:Zzzz 5:Zyyy 2:Zzzz C:Linb 1:Zzzz 1A:Linb 1:Zzzz 13:Linb 1:Zzzz 2:Linb " ++
  "1:Zzzz F:Linb 2:Zzzz E:Linb 22:Zzzz 7B:Linb 5:Zzzz 3:Zyyy 4:Zzzz 2D:Zyyy 3:Zzzz 9:Zyyy 4F:Grek " ++
  "1:Zzzz D:Zyyy 3:Zzzz 1:Grek 2F:Zzzz 2D:Zyyy 1:Zinh 82:Zzzz 1D:Lyci 3:Zzzz 31:Cari F:Zzzz " ++
  "1:Zinh 1B:Zyyy 4:Zzzz 24:Ital 9:Zzzz 3:Ital 1B:Goth 5:Zzzz 2B:Perm 5:Zzzz 1E:Ugar 1:Zzzz " ++
  "1:Ugar 24:Xpeo 4:Zzzz E:Xpeo 2A:Zzzz 50:Dsrt 30:Shaw 1E:Osma 2:Zzzz A:Osma 6:Zzzz 24:Osge " ++
  "4:Zzzz 24:Osge 4:Zzzz 28:Elba 8:Zzzz 34:Aghb B:Zzzz 1:Aghb B:Vith 1:Zzzz F:Vith 1:Zzzz 7:Vith " ++
  "1:Zzzz 2:Vith 1:Zzzz B:Vith 1:Zzzz F:Vith 1:Zzzz 7:Vith 1:Zzzz 2:Vith 43:Zzzz 137:Lina 9:Zzzz " ++
  "16:Lina A:Zzzz 8:Lina 18:Zzzz 6:Latn 1:Zzzz 2A:Latn 1:Zzzz 9:Latn 45:Zzzz 6:Cprt 2:Zzzz 1:Cprt " ++
  "1:Zzzz 2C:Cprt 1:Zzzz 2:Cprt 3:Zzzz 1:Cprt 2:Zzzz 1:Cprt 16:Armi 1:Zzzz 9:Armi 20:Palm 1F:Nbat " ++
  "8:Zzzz 9:Nbat 30:Zzzz 13:Hatr 1:Zzzz 2:Hatr 5:Zzzz 5:Hatr 1C:Phnx 3:Zzzz 1:Phnx 1A:Lydi 5:Zzzz " ++
  "1:Lydi 40:Zzzz 20:Mero 18:Merc 4:Zzzz 14:Merc 2:Zzzz 2E:Merc 4:Khar 1:Zzzz 2:Khar 5:Zzzz " ++
  "8:Khar 1:Zzzz 3:Khar 1:Zzzz 1D:Khar 2:Zzzz 3:Khar 4:Zzzz A:Khar 7:Zzzz 9:Khar 7:Zzzz 20:Sarb " ++
  "20:Narb 20:Zzzz 27:Mani 4:Zzzz C:Mani 9:Zzzz 36:Avst 3:Zzzz 7:Avst 16:Prti 2:Zzzz 8:Prti " ++
  "13:Phli 5:Zzzz 8:Phli 12:Phlp 7:Zzzz 4:Phlp C:Zzzz 7:Phlp 50:Zzzz 49:Orkh 37:Zzzz 33:Hung " ++
  "D:Zzzz 33:Hung 7:Zzzz 6:Hung 28:Rohg 8:Zzzz A:Rohg 126:Zzzz 1F:Arab 1:Zzzz 2A:Yezi 1:Zzzz " ++
  "3:Yezi 2:Zzzz 2:Yezi 4B:Zzzz 3:Arab 28:Sogo 8:Zzzz 2A:Sogd 16:Zzzz 1A:Ougr 26:Zzzz 1C:Chrs " ++
  "14:Zzzz 17:Elym 9:Zzzz 4E:Brah 4:Zzzz 24:Brah 9:Zzzz 1:Brah 43:Kthi A:Zzzz 1:Kthi 2:Zzzz " ++
  "19:Sora 7:Zzzz A:Sora 6:Zzzz 35:Cakm 1:Zzzz 12:Cakm 8:Zzzz 27:Mahj 9:Zzzz 60:Shrd 1:Zzzz " ++
  "14:Sinh B:Zzzz 12:Khoj 1:Zzzz 2F:Khoj 3E:Zzzz 7:Mult 1:Zzzz 1:Mult 1:Zzzz 4:Mult 1:Zzzz F:Mult " ++
  "1:Zzzz B:Mult 6:Zzzz 3B:Sind 5:Zzzz A:Sind 6:Zzzz 4:Gran 1:Zzzz 8:Gran 2:Zzzz 2:Gran 2:Zzzz " ++
  "16:Gran 1:Zzzz 7:Gran 1:Zzzz 2:Gran 1:Zzzz 5:Gran 1:Zzzz 1:Zinh 9:Gran 2:Zzzz 2:Gran 2:Zzzz " ++
  "3:Gran 2:Zzzz 1:Gran 6:Zzzz 1:Gran 5:Zzzz 7:Gran 2:Zzzz 7:Gran 3:Zzzz 5:Gran 8B:Zzzz 5C:Newa " ++
  "1:Zzzz 5:Newa 1E:Zzzz 48:Tirh 8:Zzzz A:Tirh A6:Zzzz 36:Sidd 2:Zzzz 26:Sidd 22:Zzzz 45:Modi " ++
  "B:Zzzz A:Modi 6:Zzzz D:Mong 13:Zzzz 3A:Takr 6:Zzzz A:Takr 36:Zzzz 1B:Ahom 2:Zzzz F:Ahom 4:Zzzz " ++
  "17:Ahom B9:Zzzz 3C:Dogr 64:Zzzz 53:Wara C:Zzzz 1:Wara 7:Diak 2:Zzzz 1:Diak 2:Zzzz 8:Diak " ++
  "1:Zzzz 2:Diak 1:Zzzz 1E:Diak 1:Zzzz 2:Diak 2:Zzzz C:Diak 9:Zzzz A:Diak 46:Zzzz 8:Nand 2:Zzzz " ++
  "2E:Nand 2:Zzzz B:Nand 1B:Zzzz 48:Zanb 8:Zzzz 53:Soyo D:Zzzz 10:Cans 39:Pauc 7:Zzzz A:Deva " ++
  "F6:Zzzz 9:Bhks 1:Zzzz 2D:Bhks 1:Zzzz E:Bhks A:Zzzz 1D:Bhks 3:Zzzz 20:Marc 2:Zzzz 16:Marc " ++
  "1:Zzzz E:Marc 49:Zzzz 7:Gonm 1:Zzzz 2:Gonm 1:Zzzz 2C:Gonm 3:Zzzz 1:Gonm 1:Zzzz 2:Gonm 1:Zzzz " ++
  "9:Gonm 8:Zzzz A:Gonm 6:Zzzz 6:Gong 1:Zzzz 2:Gong 1:Zzzz 25:Gong 1:Zzzz 2:Gong 1:Zzzz 6:Gong " ++
  "7:Zzzz A:Gong 136:Zzzz 19:Maka 7:Zzzz 11:Kawi 1:Zzzz 29:Kawi 3:Zzzz 1C:Kawi 56:Zzzz 1:Lisu " ++
  "F:Zzzz 32:Taml D:Zzzz 1:Taml 39A:Xsux 66:Zzzz 6F:Xsux 1:Zzzz 5:Xsux B:Zzzz C4:Xsux A4C:Zzzz " ++
  "63:Cpmn D:Zzzz 456:Egyp FAA:Zzzz 247:Hluw 21B9:Zzzz 239:Bamu 7:Zzzz 1F:Mroo 1:Zzzz A:Mroo " ++
  "4:Zzzz 2:Mroo 4F:Tnsa 1:Zzzz A:Tnsa 6:Zzzz 1E:Bass 2:Zzzz 6:Bass A:Zzzz 46:Hmng A:Zzzz A:Hmng " ++
  "1:Zzzz 7:Hmng 1:Zzzz 15:Hmng 5:Zzzz 13:Hmng 2B0:Zzzz 5B:Medf 65:Zzzz 4B:Plrd 4:Zzzz 39:Plrd " ++
  "7:Zzzz 11:Plrd 40:Zzzz 1:Tang 1:Nshu 2:Hani 1:Kits B:Zzzz 2:Hani E:Zzzz 17F8:Tang 8:Zzzz " ++
  "300:Tang 1D6:Kits 2A:Zzzz 9:Tang 22E7:Zzzz 4:Kana 1:Zzzz 7:Kana 1:Zzzz 2:Kana 1:Zzzz 1:Kana " ++
  "11F:Hira 3:Kana F:Zzzz 1:Hira 1D:Zzzz 3:Hira 2:Zzzz 1:Kana E:Zzzz 4:Kana 8:Zzzz 18C:Nshu " ++
  "904:Zzzz 6B:Dupl 5:Zzzz D:Dupl 3:Zzzz 9:Dupl 7:Zzzz A:Dupl 2:Zzzz 4:Dupl 4:Zyyy 125C:Zzzz " ++
  "2E:Zinh 2:Zzzz 17:Zinh 9:Zzzz 74:Zyyy 3C:Zzzz F6:Zyyy A:Zzzz 27:Zyyy 2:Zzzz 3E:Zyyy 3:Zinh " ++
  "11:Zyyy 8:Zinh 2:Zyyy 7:Zinh 1E:Zyyy 4:Zinh 3D:Zyyy 15:Zzzz 46:Grek 7A:Zzzz 14:Zyyy C:Zzzz " ++
  "14:Zyyy C:Zzzz 57:Zyyy 9:Zzzz 19:Zyyy 87:Zzzz 55:Zyyy 1:Zzzz 47:Zyyy 1:Zzzz 2:Zyyy 2:Zzzz " ++
  "1:Zyyy 2:Zzzz 2:Zyyy 2:Zzzz 4:Zyyy 1:Zzzz C:Zyyy 1:Zzzz 1:Zyyy 1:Zzzz 7:Zyyy 1:Zzzz 41:Zyyy " ++
  "1:Zzzz 4:Zyyy 2:Zzzz 8:Zyyy 1:Zzzz 7:Zyyy 1:Zzzz 1C:Zyyy 1:Zzzz 4:Zyyy 1:Zzzz 5:Zyyy 1:Zzzz " ++
  "1:Zyyy 3:Zzzz 7:Zyyy 1:Zzzz 154:Zyyy 2:Zzzz 124:Zyyy 2:Zzzz 32:Zyyy 28C:Sgnw F:Zzzz 5:Sgnw " ++
  "1:Zzzz F:Sgnw 450:Zzzz 1F:Latn 6:Zzzz 6:Latn D5:Zzzz 7:Glag 1:Zzzz 11:Glag 2:Zzzz 7:Glag " ++
  "1:Zzzz 2:Glag 1:Zzzz 5:Glag 5:Zzzz 3E:Cyrl 21:Zzzz 1:Cyrl 70:Zzzz 2D:Hmnp 3:Zzzz E:Hmnp 2:Zzzz " ++
  "A:Hmnp 4:Zzzz 2:Hmnp 140:Zzzz 1F:Toto 11:Zzzz 3A:Wcho 5:Zzzz 1:Wcho 1D0:Zzzz 2A:Nagm 2E6:Zzzz " ++
  "7:Ethi 1:Zzzz 4:Ethi 1:Zzzz 2:Ethi 1:Zzzz F:Ethi 1:Zzzz C5:Mend 2:Zzzz 10:Mend 29:Zzzz 4C:Adlm " ++
  "4:Zzzz A:Adlm 4:Zzzz 2:Adlm 311:Zzzz 44:Zyyy 4C:Zzzz 3D:Zyyy C2:Zzzz 4:Arab 1:Zzzz 1B:Arab " ++
  "1:Zzzz 2:Arab 1:Zzzz 1:Arab 2:Zzzz 1:Arab 1:Zzzz A:Arab 1:Zzzz 4:Arab 1:Zzzz 1:Arab 1:Zzzz " ++
  "1:Arab 6:Zzzz 1:Arab 4:Zzzz 1:Arab 1:Zzzz 1:Arab 1:Zzzz 1:Arab 1:Zzzz 3:Arab 1:Zzzz 2:Arab " ++
  "1:Zzzz 1:Arab 2:Zzzz 1:Arab 1:Zzzz 1:Arab 1:Zzzz 1:Arab 1:Zzzz 1:Arab 1:Zzzz 1:Arab 1:Zzzz " ++
  "2:Arab 1:Zzzz 1:Arab 2:Zzzz 4:Arab 1:Zzzz 7:Arab 1:Zzzz 4:Arab 1:Zzzz 4:Arab 1:Zzzz 1:Arab " ++
  "1:Zzzz A:Arab 1:Zzzz 11:Arab 5:Zzzz 3:Arab 1:Zzzz 5:Arab 1:Zzzz 11:Arab 34:Zzzz 2:Arab " ++
  "10E:Zzzz 2C:Zyyy 4:Zzzz 64:Zyyy C:Zzzz F:Zyyy 2:Zzzz F:Zyyy 1:Zzzz F:Zyyy 1:Zzzz 25:Zyyy " ++
  "A:Zzzz AE:Zyyy 38:Zzzz 1A:Zyyy 1:Hira 2:Zyyy D:Zzzz 2C:Zyyy 4:Zzzz 9:Zyyy 7:Zzzz 2:Zyyy E:Zzzz " ++
  "6:Zyyy 9A:Zzzz 3D8:Zyyy 4:Zzzz 11:Zyyy 3:Zzzz D:Zyyy 3:Zzzz 77:Zyyy 4:Zzzz 5F:Zyyy 6:Zzzz " ++
  "C:Zyyy 4:Zzzz 1:Zyyy F:Zzzz C:Zyyy 4:Zzzz 38:Zyyy 8:Zzzz A:Zyyy 6:Zzzz 28:Zyyy 8:Zzzz 1E:Zyyy " ++
  "2:Zzzz 2:Zyyy 4E:Zzzz 154:Zyyy C:Zzzz E:Zyyy 2:Zzzz D:Zyyy 3:Zzzz 9:Zyyy 7:Zzzz 2E:Zyyy 1:Zzzz " ++
  "7:Zyyy 8:Zzzz E:Zyyy 4:Zzzz 9:Zyyy 7:Zzzz 9:Zyyy 7:Zzzz 93:Zyyy 1:Zzzz 37:Zyyy 25:Zzzz A:Zyyy " ++
  "406:Zzzz A6E0:Hani 20:Zzzz 103A:Hani 6:Zzzz DE:Hani 2:Zzzz 1682:Hani E:Zzzz 1D31:Hani C1F:Zzzz " ++
  "21E:Hani 5E2:Zzzz 134B:Hani 5:Zzzz 1060:Hani ADC51:Zzzz 1:Zyyy 1E:Zzzz 60:Zyyy 80:Zzzz F0:Zinh " ++
  "2FE10:Zzzz 0:Zzzz"

/-- The runs of equal scripts, by their starts. -/
def scriptRuns : Runs := Runs.ofLengths scriptText

/-- The codes of the scripts and their names. -/
def scriptNames : List (String × String) := namedCodes <|
  "Adlm:Adlam Ahom:Ahom Hluw:AnatolianHieroglyphs Arab:Arabic Armn:Armenian Avst:Avestan " ++
  "Bali:Balinese Bamu:Bamum Bass:BassaVah Batk:Batak Beng:Bengali Bhks:Bhaiksuki Bopo:Bopomofo " ++
  "Brah:Brahmi Brai:Braille Bugi:Buginese Buhd:Buhid Cans:CanadianAboriginal Cari:Carian " ++
  "Aghb:CaucasianAlbanian Cakm:Chakma Cham:Cham Cher:Cherokee Chrs:Chorasmian Zyyy:Common " ++
  "Copt:Coptic Xsux:Cuneiform Cprt:Cypriot Cpmn:CyproMinoan Cyrl:Cyrillic Dsrt:Deseret " ++
  "Deva:Devanagari Diak:DivesAkuru Dogr:Dogra Dupl:Duployan Egyp:EgyptianHieroglyphs Elba:Elbasan " ++
  "Elym:Elymaic Ethi:Ethiopic Geor:Georgian Glag:Glagolitic Goth:Gothic Gran:Grantha Grek:Greek " ++
  "Gujr:Gujarati Gong:GunjalaGondi Guru:Gurmukhi Hani:Han Hang:Hangul Rohg:HanifiRohingya " ++
  "Hano:Hanunoo Hatr:Hatran Hebr:Hebrew Hira:Hiragana Armi:ImperialAramaic Zinh:Inherited " ++
  "Phli:InscriptionalPahlavi Prti:InscriptionalParthian Java:Javanese Kthi:Kaithi Knda:Kannada " ++
  "Kana:Katakana Kawi:Kawi Kali:KayahLi Khar:Kharoshthi Kits:KhitanSmallScript Khmr:Khmer " ++
  "Khoj:Khojki Sind:Khudawadi Laoo:Lao Latn:Latin Lepc:Lepcha Limb:Limbu Lina:LinearA " ++
  "Linb:LinearB Lisu:Lisu Lyci:Lycian Lydi:Lydian Mahj:Mahajani Maka:Makasar Mlym:Malayalam " ++
  "Mand:Mandaic Mani:Manichaean Marc:Marchen Gonm:MasaramGondi Medf:Medefaidrin Mtei:MeeteiMayek " ++
  "Mend:MendeKikakui Merc:MeroiticCursive Mero:MeroiticHieroglyphs Plrd:Miao Modi:Modi " ++
  "Mong:Mongolian Mroo:Mro Mult:Multani Mymr:Myanmar Nbat:Nabataean Nagm:NagMundari " ++
  "Nand:Nandinagari Talu:NewTaiLue Newa:Newa Nkoo:Nko Nshu:Nushu Hmnp:NyiakengPuachueHmong " ++
  "Ogam:Ogham Olck:OlChiki Hung:OldHungarian Ital:OldItalic Narb:OldNorthArabian Perm:OldPermic " ++
  "Xpeo:OldPersian Sogo:OldSogdian Sarb:OldSouthArabian Orkh:OldTurkic Ougr:OldUyghur Orya:Oriya " ++
  "Osge:Osage Osma:Osmanya Hmng:PahawhHmong Palm:Palmyrene Pauc:PauCinHau Phag:PhagsPa " ++
  "Phnx:Phoenician Phlp:PsalterPahlavi Rjng:Rejang Runr:Runic Samr:Samaritan Saur:Saurashtra " ++
  "Shrd:Sharada Shaw:Shavian Sidd:Siddham Sgnw:SignWriting Sinh:Sinhala Sogd:Sogdian " ++
  "Sora:SoraSompeng Soyo:Soyombo Sund:Sundanese Sylo:SylotiNagri Syrc:Syriac Tglg:Tagalog " ++
  "Tagb:Tagbanwa Tale:TaiLe Lana:TaiTham Tavt:TaiViet Takr:Takri Taml:Tamil Tnsa:Tangsa " ++
  "Tang:Tangut Telu:Telugu Thaa:Thaana Thai:Thai Tibt:Tibetan Tfng:Tifinagh Tirh:Tirhuta " ++
  "Toto:Toto Ugar:Ugaritic Zzzz:Unknown Vaii:Vai Vith:Vithkuqi Wcho:Wancho Wara:WarangCiti " ++
  "Yezi:Yezidi Yiii:Yi Zanb:ZanabazarSquare"

end SiteBuilder.Text
