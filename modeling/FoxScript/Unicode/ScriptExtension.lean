import FoxScript.Unicode.Script

/-!
# Script extensions

Some characters are shared by a few scripts. They count for each of these, and every other character
counts for its own script.
-/
namespace FoxScript.Unicode

/-- The runs of code points from U+0000 on: a count and the scripts that share so many code points,
or nothing where the code points have one script. -/
def sharedRuns : String :=
  String.join
    ["183 1Avst/Cari/Copt/Dupl/Elba/Geor/Glag/Gong/Goth/Grek/Hani/Latn/Lydi/Mahj/Perm/Shaw 516 ",
     "1Beng/Cyrl/Deva/Latn/Lisu/Thai/Toto 10 1Bopo/Latn 1 3Bopo/Latn 1 1Latn/Lisu 9 1Latn/Thai ",
     "1 1Bopo/Latn 38 1Cher/Copt/Cyrl/Grek/Latn/Perm/Sunu/Tale ",
     "1Cher/Cyrl/Grek/Latn/Osge/Sunu/Tale/Todr 1Cher/Cyrl/Latn/Tfng 1Glag/Latn/Sunu/Syrc/Thai ",
     "1Aghb/Cher/Copt/Cyrl/Goth/Grek/Latn/Osge/Syrc/Tfng/Todr 1Copt/Elba/Glag/Goth/Kana/Latn ",
     "1Cyrl/Grek/Latn/Perm 1Copt/Dupl/Hebr/Latn/Perm/Syrc/Tale/Tfng/Todr ",
     "1Armn/Cyrl/Dupl/Goth/Grek/Hebr/Latn/Perm/Syrc/Tale 1Latn/Tfng 1Dupl/Latn/Syrc ",
     "1Cher/Cyrl/Latn/Osge 1Cher/Latn/Tale 1Latn/Sunu 1Ethi/Latn 1 1Latn/Sunu 1Cyrl/Latn/Todr 1 ",
     "1Grek/Latn/Perm/Todr 12 1Latn/Syrc 2 1Cher/Dupl/Kana/Latn/Syrc 1Cher/Dupl/Latn/Syrc ",
     "1Latn/Syrc 7 1Latn/Sunu/Syrc 1Latn/Syrc 1 1Cher/Latn/Syrc 1Aghb/Cher/Goth/Latn/Sunu/Thai ",
     "16 1Grek 2 1Grek 18 1Latn/Osge 5 1Aghb/Latn/Todr 4 13Latn 4 2Copt/Grek 269 1Cyrl/Perm ",
     "1Cyrl/Glag 2Cyrl/Latn 1Cyrl/Glag 257 1Armn/Geor/Glag 130 ",
     "1Arab/Gara/Nkoo/Rohg/Syrc/Thaa/Yezi 14 1Arab/Gara/Nkoo/Rohg/Syrc/Thaa/Yezi ",
     "1Arab/Syrc/Thaa 2 1Adlm/Arab/Gara/Nkoo/Rohg/Syrc/Thaa/Yezi 32 ",
     "1Adlm/Arab/Mand/Mani/Ougr/Phlp/Rohg/Sogd/Syrc 10 11Arab/Syrc 10 10Arab/Thaa/Yezi 6 ",
     "1Arab/Syrc 99 1Arab/Rohg 636 ",
     "1Beng/Deva/Gran/Gujr/Guru/Knda/Latn/Mlym/Orya/Shrd/Taml/Telu/Tirh ",
     "1Beng/Deva/Gran/Gujr/Guru/Knda/Latn/Mlym/Orya/Taml/Telu/Tirh 17 ",
     "1Beng/Deva/Dogr/Gong/Gonm/Gran/Gujr/Guru/Knda/Mahj/Mlym/Nand/Onao/Orya/Sind/Sinh/Sylo/Takr/Taml/Telu/Tirh ",
     "1Beng/Deva/Dogr/Gong/Gonm/Gran/Gujr/Gukh/Guru/Knda/Limb/Mahj/Mlym/Nand/Onao/Orya/Sind/Sinh/Sylo/Takr/Taml/Telu/Tirh ",
     "10Deva/Dogr/Kthi/Mahj 118 10Beng/Cakm/Sylo 118 10Guru/Mult 118 10Gujr/Khoj 246 ",
     "14Gran/Taml 242 10Knda/Nand/Tutg 848 10Cakm/Mymr/Tale 177 1Geor/Glag/Latn 1519 3Runr 71 ",
     "2Buhd/Hano/Tagb/Tglg 203 2Mong/Phag 1 1Mong/Phag 1226 1Beng/Deva/Gran/Knda 1Deva ",
     "1Beng/Deva/Gran/Knda 1Deva/Gran/Knda 1Deva 2Beng/Deva 1Deva/Shrd 1Beng/Deva 1Deva/Shrd ",
     "1Deva/Knda/Mlym/Orya/Taml/Telu 1Deva 2Deva/Shrd 2Deva 1Deva/Shrd 1Beng/Deva 7Deva ",
     "1Deva/Nand 1Beng/Deva 2Deva 1Beng/Deva 4Deva ",
     "1Beng/Deva/Gran/Knda/Mlym/Nand/Orya/Sinh/Telu/Tirh/Tutg 1Deva/Gran 1Deva/Gran/Knda/Tutg ",
     "2Beng/Deva 1Beng 2Deva/Gran 1Nand 197 2Grek 54 1Cyrl/Latn/Syrc 1 1Syrc 564 ",
     "1Latn/Mong/Phag 31 1Adlm/Arab 10 1Cari/Geor/Glag/Hung/Lyci/Orkh 2 1Cari/Grek/Hung/Mero ",
     "146 1Deva/Gran/Latn 3366 1Copt/Latn 24 1Avst/Orkh 1Avst/Cari/Geor/Hung/Kthi/Lydi/Samr 10 ",
     "1Dupl 4 1Adlm/Arab/Hung 1 1Cyrl/Glag 428 16Hani/Tang 1 ",
     "1Bopo/Hang/Hani/Hira/Kana/Mong/Yiii 1Bopo/Hang/Hani/Hira/Kana/Mong/Phag/Yiii ",
     "1Bopo/Hang/Hani/Hira/Kana 2 1Hani 1 2Bopo/Hang/Hani/Hira/Kana/Mong/Tibt/Yiii ",
     "2Bopo/Hang/Hani/Hira/Kana/Lisu/Mong/Tibt/Yiii 6Bopo/Hang/Hani/Hira/Kana/Yiii 1 ",
     "1Bopo/Hang/Hani/Hira/Kana 8Bopo/Hang/Hani/Hira/Kana/Yiii 4Bopo/Hang/Hani/Hira/Kana 10 ",
     "4Bopo/Hani 2 1Bopo/Hang/Hani/Hira/Kana 5Hira/Kana 1 1Bopo/Hang/Hani/Hira/Kana 4 ",
     "2Hani/Hira/Kana 2Hani 89 4Hira/Kana 3 1Hira/Kana 90 1Bopo/Hang/Hani/Hira/Kana/Yiii ",
     "1Hira/Kana 147 16Hani 32 38Hani 9 1Hani/Tang 48 40Hani 56 49Hani 15 12Hani 51 1Hani 88 ",
     "25Hani 10 5Hani 96 31Hani 29296 1Cyrl/Glag 144 8Hani/Latn 296 ",
     "3Deva/Dogr/Gujr/Guru/Khoj/Knda/Kthi/Mahj/Mlym/Modi/Nand/Shrd/Sind/Takr/Tirh/Tutg ",
     "3Deva/Dogr/Gujr/Guru/Khoj/Knda/Kthi/Mahj/Modi/Nand/Shrd/Sind/Takr/Tirh/Tutg ",
     "2Deva/Dogr/Gujr/Guru/Khoj/Kthi/Mahj/Modi/Sind/Takr/Tirh ",
     "1Deva/Dogr/Gujr/Guru/Khoj/Kthi/Mahj/Modi/Shrd/Sind/Takr/Tirh ",
     "1Deva/Dogr/Gujr/Guru/Khoj/Kthi/Mahj/Modi/Sind/Takr/Tirh 183 1Beng/Deva/Tutg 1 1Deva/Taml ",
     "58 1Kali/Latn/Mymr 160 1Bugi/Java 21358 2Arab/Nkoo 178 1Arab/Thaa 10 1Arab/Thaa 71 ",
     "2Bopo/Hang/Hani/Hira/Kana 282 5Bopo/Hang/Hani/Hira/Kana/Yiii 10 1Hira/Kana 45 2Hira/Kana ",
     "352 2Cpmn/Cprt/Linb 1Cprt/Linb 4 45Cprt/Lina/Linb 3 9Cprt/Linb 416 28Arab/Copt 2038 ",
     "1Mani/Ougr 2062 1Gran/Taml 1 1Gran/Taml 55 2Gran/Taml 3219 2Gran/Taml 1 1Gran/Taml 40140 ",
     "4Dupl 5820 18Hani 7902 2Hani"]

/-- The code points that count for a script, by its short name. -/
def scriptExtension (name : String) : CodeSet :=
  let shared := readRuns sharedRuns
  selectRuns shared (fun names => (names.splitOn "/").contains name) ∪
    (script name \ selectRuns shared (!·.isEmpty))

end FoxScript.Unicode
