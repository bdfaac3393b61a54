import SiteBuilder.Text.Table

/-!
# General categories

Every code point has one of thirty general categories of Unicode. The table lists runs of code
points from zero on, each with its length in hexadecimal digits and its category; in the runs marked
`Le` and `La` capital and small letters alternate, with the capitals at even and at odd code
points.
-/

namespace SiteBuilder.Text

/-- The runs of equal categories. -/
def categoryText : String :=
  "20:Cc 1:Zs 3:Po 1:Sc 3:Po 1:Ps 1:Pe 1:Po 1:Sm 1:Po 1:Pd 2:Po A:Nd 2:Po 3:Sm 2:Po 1A:Lu 1:Ps " ++
  "1:Po 1:Pe 1:Sk 1:Pc 1:Sk 1A:Ll 1:Ps 1:Sm 1:Pe 1:Sm 21:Cc 1:Zs 1:Po 4:Sc 1:So 1:Po 1:Sk 1:So " ++
  "1:Lo 1:Pi 1:Sm 1:Cf 1:So 1:Sk 1:So 1:Sm 2:No 1:Sk 1:Ll 2:Po 1:Sk 1:No 1:Lo 1:Pf 3:No 1:Po " ++
  "17:Lu 1:Sm 7:Lu 18:Ll 1:Sm 8:Ll 37:Le 2:Ll F:La 2:Ll 2E:Le 2:Lu 4:La 3:Ll 2:Lu 3:Le 2:Lu 1:Ll " ++
  "3:Lu 2:Ll 4:Lu 1:Ll 2:Lu 1:Ll 3:Lu 3:Ll 2:Lu 1:Ll 2:Lu 5:Le 2:Lu 1:Ll 1:Lu 2:Ll 1:Lu 1:Ll 2:Lu " ++
  "1:Ll 3:Lu 3:La 2:Lu 2:Ll 1:Lo 1:Lu 3:Ll 4:Lo 1:Lu 1:Lt 1:Ll 1:Lu 1:Lt 1:Ll 1:Lu 1:Lt 10:La " ++
  "2:Ll 11:Le 2:Ll 1:Lu 1:Lt 3:Le 3:Lu 3A:Le 7:Ll 2:Lu 1:Ll 2:Lu 2:Ll 1:Lu 1:Ll 4:Lu 8:Le 45:Ll " ++
  "2:Lo 1A:Ll 12:Lm 4:Sk C:Lm E:Sk 5:Lm 7:Sk 1:Lm 1:Sk 1:Lm 11:Sk 70:Mn 4:Le 1:Lm 1:Sk 1:Lu 1:Ll " ++
  "2:Cn 1:Lm 3:Ll 1:Po 1:Lu 4:Cn 2:Sk 1:Lu 1:Po 3:Lu 1:Cn 1:Lu 1:Cn 2:Lu 1:Ll 11:Lu 1:Cn 9:Lu " ++
  "23:Ll 1:Lu 2:Ll 3:Lu 3:Ll 17:Le 5:Ll 1:Lu 1:Ll 1:Sm 1:Lu 1:Ll 2:Lu 2:Ll 33:Lu 30:Ll 22:Le 1:So " ++
  "5:Mn 2:Me 36:Le 2:Lu C:La 2:Ll 60:Le 1:Cn 26:Lu 2:Cn 1:Lm 6:Po 29:Ll 1:Po 1:Pd 2:Cn 2:So 1:Sc " ++
  "1:Cn 2D:Mn 1:Pd 1:Mn 1:Po 2:Mn 1:Po 2:Mn 1:Po 1:Mn 8:Cn 1B:Lo 4:Cn 4:Lo 2:Po B:Cn 6:Cf 3:Sm " ++
  "2:Po 1:Sc 2:Po 2:So B:Mn 1:Po 1:Cf 3:Po 20:Lo 1:Lm A:Lo 15:Mn A:Nd 4:Po 2:Lo 1:Mn 63:Lo 1:Po " ++
  "1:Lo 7:Mn 1:Cf 1:So 6:Mn 2:Lm 2:Mn 1:So 4:Mn 2:Lo A:Nd 3:Lo 2:So 1:Lo E:Po 1:Cn 1:Cf 1:Lo 1:Mn " ++
  "1E:Lo 1B:Mn 2:Cn 59:Lo B:Mn 1:Lo E:Cn A:Nd 21:Lo 9:Mn 2:Lm 1:So 3:Po 1:Lm 2:Cn 1:Mn 2:Sc 16:Lo " ++
  "4:Mn 1:Lm 9:Mn 1:Lm 3:Mn 1:Lm 5:Mn 2:Cn F:Po 1:Cn 19:Lo 3:Mn 2:Cn 1:Po 1:Cn B:Lo 5:Cn 18:Lo " ++
  "1:Sk 6:Lo 1:Cn 2:Cf 5:Cn 9:Mn 29:Lo 1:Lm 18:Mn 1:Cf 20:Mn 1:Mc 36:Lo 1:Mn 1:Mc 1:Mn 1:Lo 3:Mc " ++
  "8:Mn 4:Mc 1:Mn 2:Mc 1:Lo 7:Mn A:Lo 2:Mn 2:Po A:Nd 1:Po 1:Lm F:Lo 1:Mn 2:Mc 1:Cn 8:Lo 2:Cn 2:Lo " ++
  "2:Cn 16:Lo 1:Cn 7:Lo 1:Cn 1:Lo 3:Cn 4:Lo 2:Cn 1:Mn 1:Lo 3:Mc 4:Mn 2:Cn 2:Mc 2:Cn 2:Mc 1:Mn " ++
  "1:Lo 8:Cn 1:Mc 4:Cn 2:Lo 1:Cn 3:Lo 2:Mn 2:Cn A:Nd 2:Lo 2:Sc 6:No 1:So 1:Sc 1:Lo 1:Po 1:Mn 2:Cn " ++
  "2:Mn 1:Mc 1:Cn 6:Lo 4:Cn 2:Lo 2:Cn 16:Lo 1:Cn 7:Lo 1:Cn 2:Lo 1:Cn 2:Lo 1:Cn 2:Lo 2:Cn 1:Mn " ++
  "1:Cn 3:Mc 2:Mn 4:Cn 2:Mn 2:Cn 3:Mn 3:Cn 1:Mn 7:Cn 4:Lo 1:Cn 1:Lo 7:Cn A:Nd 2:Mn 3:Lo 1:Mn 1:Po " ++
  "A:Cn 2:Mn 1:Mc 1:Cn 9:Lo 1:Cn 3:Lo 1:Cn 16:Lo 1:Cn 7:Lo 1:Cn 2:Lo 1:Cn 5:Lo 2:Cn 1:Mn 1:Lo " ++
  "3:Mc 5:Mn 1:Cn 2:Mn 1:Mc 1:Cn 2:Mc 1:Mn 2:Cn 1:Lo F:Cn 2:Lo 2:Mn 2:Cn A:Nd 1:Po 1:Sc 7:Cn 1:Lo " ++
  "6:Mn 1:Cn 1:Mn 2:Mc 1:Cn 8:Lo 2:Cn 2:Lo 2:Cn 16:Lo 1:Cn 7:Lo 1:Cn 2:Lo 1:Cn 5:Lo 2:Cn 1:Mn " ++
  "1:Lo 1:Mc 1:Mn 1:Mc 4:Mn 2:Cn 2:Mc 2:Cn 2:Mc 1:Mn 7:Cn 2:Mn 1:Mc 4:Cn 2:Lo 1:Cn 3:Lo 2:Mn 2:Cn " ++
  "A:Nd 1:So 1:Lo 6:No A:Cn 1:Mn 1:Lo 1:Cn 6:Lo 3:Cn 3:Lo 1:Cn 4:Lo 3:Cn 2:Lo 1:Cn 1:Lo 1:Cn 2:Lo " ++
  "3:Cn 2:Lo 3:Cn 3:Lo 3:Cn C:Lo 4:Cn 2:Mc 1:Mn 2:Mc 3:Cn 3:Mc 1:Cn 3:Mc 1:Mn 2:Cn 1:Lo 6:Cn 1:Mc " ++
  "E:Cn A:Nd 3:No 6:So 1:Sc 1:So 5:Cn 1:Mn 3:Mc 1:Mn 8:Lo 1:Cn 3:Lo 1:Cn 17:Lo 1:Cn 10:Lo 2:Cn " ++
  "1:Mn 1:Lo 3:Mn 4:Mc 1:Cn 3:Mn 1:Cn 4:Mn 7:Cn 2:Mn 1:Cn 3:Lo 2:Cn 1:Lo 2:Cn 2:Lo 2:Mn 2:Cn A:Nd " ++
  "7:Cn 1:Po 7:No 1:So 1:Lo 1:Mn 2:Mc 1:Po 8:Lo 1:Cn 3:Lo 1:Cn 17:Lo 1:Cn A:Lo 1:Cn 5:Lo 2:Cn " ++
  "1:Mn 1:Lo 1:Mc 1:Mn 5:Mc 1:Cn 1:Mn 2:Mc 1:Cn 2:Mc 2:Mn 7:Cn 2:Mc 6:Cn 2:Lo 1:Cn 2:Lo 2:Mn 2:Cn " ++
  "A:Nd 1:Cn 2:Lo 1:Mc C:Cn 2:Mn 2:Mc 9:Lo 1:Cn 3:Lo 1:Cn 29:Lo 2:Mn 1:Lo 3:Mc 4:Mn 1:Cn 3:Mc " ++
  "1:Cn 3:Mc 1:Mn 1:Lo 1:So 4:Cn 3:Lo 1:Mc 7:No 3:Lo 2:Mn 2:Cn A:Nd 9:No 1:So 6:Lo 1:Cn 1:Mn 2:Mc " ++
  "1:Cn 12:Lo 3:Cn 18:Lo 1:Cn 9:Lo 1:Cn 1:Lo 2:Cn 7:Lo 3:Cn 1:Mn 4:Cn 3:Mc 3:Mn 1:Cn 1:Mn 1:Cn " ++
  "8:Mc 6:Cn A:Nd 2:Cn 2:Mc 1:Po C:Cn 30:Lo 1:Mn 2:Lo 7:Mn 4:Cn 1:Sc 6:Lo 1:Lm 8:Mn 1:Po A:Nd " ++
  "2:Po 25:Cn 2:Lo 1:Cn 1:Lo 1:Cn 5:Lo 1:Cn 18:Lo 1:Cn 1:Lo 1:Cn A:Lo 1:Mn 2:Lo 9:Mn 1:Lo 2:Cn " ++
  "5:Lo 1:Cn 1:Lm 1:Cn 7:Mn 1:Cn A:Nd 2:Cn 4:Lo 20:Cn 1:Lo 3:So F:Po 1:So 1:Po 3:So 2:Mn 6:So " ++
  "A:Nd A:No 1:So 1:Mn 1:So 1:Mn 1:So 1:Mn 1:Ps 1:Pe 1:Ps 1:Pe 2:Mc 8:Lo 1:Cn 24:Lo 4:Cn E:Mn " ++
  "1:Mc 5:Mn 1:Po 2:Mn 5:Lo B:Mn 1:Cn 24:Mn 1:Cn 8:So 1:Mn 6:So 1:Cn 2:So 5:Po 4:So 2:Po 25:Cn " ++
  "2B:Lo 2:Mc 4:Mn 1:Mc 6:Mn 1:Mc 2:Mn 2:Mc 2:Mn 1:Lo A:Nd 6:Po 6:Lo 2:Mc 2:Mn 4:Lo 3:Mn 1:Lo " ++
  "3:Mc 2:Lo 7:Mc 3:Lo 4:Mn D:Lo 1:Mn 2:Mc 2:Mn 6:Mc 1:Mn 1:Lo 1:Mc A:Nd 3:Mc 1:Mn 2:So 26:Lu " ++
  "1:Cn 1:Lu 5:Cn 1:Lu 2:Cn 2B:Ll 1:Po 1:Lm 3:Ll 149:Lo 1:Cn 4:Lo 2:Cn 7:Lo 1:Cn 1:Lo 1:Cn 4:Lo " ++
  "2:Cn 29:Lo 1:Cn 4:Lo 2:Cn 21:Lo 1:Cn 4:Lo 2:Cn 7:Lo 1:Cn 1:Lo 1:Cn 4:Lo 2:Cn F:Lo 1:Cn 39:Lo " ++
  "1:Cn 4:Lo 2:Cn 43:Lo 2:Cn 3:Mn 9:Po 14:No 3:Cn 10:Lo A:So 6:Cn 56:Lu 2:Cn 6:Ll 2:Cn 1:Pd " ++
  "26C:Lo 1:So 1:Po 11:Lo 1:Zs 1A:Lo 1:Ps 1:Pe 3:Cn 4B:Lo 3:Po 3:Nl 8:Lo 7:Cn 12:Lo 3:Mn 1:Mc " ++
  "9:Cn 13:Lo 2:Mn 1:Mc 2:Po 9:Cn 12:Lo 2:Mn C:Cn D:Lo 1:Cn 3:Lo 1:Cn 2:Mn C:Cn 34:Lo 2:Mn 1:Mc " ++
  "7:Mn 8:Mc 1:Mn 2:Mc B:Mn 3:Po 1:Lm 3:Po 1:Sc 1:Lo 1:Mn 2:Cn A:Nd 6:Cn A:No 6:Cn 6:Po 1:Pd 4:Po " ++
  "3:Mn 1:Cf 1:Mn A:Nd 6:Cn 23:Lo 1:Lm 35:Lo 7:Cn 5:Lo 2:Mn 22:Lo 1:Mn 1:Lo 5:Cn 46:Lo A:Cn 1F:Lo " ++
  "1:Cn 3:Mn 4:Mc 2:Mn 3:Mc 4:Cn 2:Mc 1:Mn 6:Mc 3:Mn 4:Cn 1:So 3:Cn 2:Po A:Nd 1E:Lo 2:Cn 5:Lo " ++
  "B:Cn 2C:Lo 4:Cn 1A:Lo 6:Cn A:Nd 1:No 3:Cn 22:So 17:Lo 2:Mn 2:Mc 1:Mn 2:Cn 2:Po 35:Lo 1:Mc 1:Mn " ++
  "1:Mc 7:Mn 1:Cn 1:Mn 1:Mc 1:Mn 2:Mc 8:Mn 6:Mc A:Mn 2:Cn 1:Mn A:Nd 6:Cn A:Nd 6:Cn 7:Po 1:Lm 6:Po " ++
  "2:Cn E:Mn 1:Me 10:Mn 31:Cn 4:Mn 1:Mc 2F:Lo 1:Mn 1:Mc 5:Mn 1:Mc 1:Mn 5:Mc 1:Mn 2:Mc 8:Lo 1:Cn " ++
  "2:Po A:Nd 7:Po A:So 9:Mn 9:So 3:Po 2:Mn 1:Mc 1E:Lo 1:Mc 4:Mn 2:Mc 2:Mn 1:Mc 3:Mn 2:Lo A:Nd " ++
  "2C:Lo 1:Mn 1:Mc 2:Mn 3:Mc 1:Mn 1:Mc 3:Mn 2:Mc 8:Cn 4:Po 24:Lo 8:Mc 8:Mn 2:Mc 2:Mn 3:Cn 5:Po " ++
  "A:Nd 3:Cn 3:Lo A:Nd 1E:Lo 6:Lm 2:Po 9:Ll 1:Lu 1:Ll 5:Cn 2B:Lu 2:Cn 3:Lu 8:Po 8:Cn 3:Mn 1:Po " ++
  "D:Mn 1:Mc 7:Mn 4:Lo 1:Mn 6:Lo 1:Mn 2:Lo 1:Mc 2:Mn 1:Lo 5:Cn 2C:Ll 3F:Lm D:Ll 1:Lm 22:Ll 25:Lm " ++
  "40:Mn 95:Le 9:Ll 61:Le 9:Ll 8:Lu 6:Ll 2:Cn 6:Lu 2:Cn 8:Ll 8:Lu 8:Ll 8:Lu 6:Ll 2:Cn 6:Lu 2:Cn " ++
  "8:Ll 1:Cn 1:Lu 1:Cn 1:Lu 1:Cn 1:Lu 1:Cn 1:Lu 8:Ll 8:Lu E:Ll 2:Cn 8:Ll 8:Lt 8:Ll 8:Lt 8:Ll 8:Lt " ++
  "5:Ll 1:Cn 2:Ll 4:Lu 1:Lt 1:Sk 1:Ll 3:Sk 3:Ll 1:Cn 2:Ll 4:Lu 1:Lt 3:Sk 4:Ll 2:Cn 2:Ll 4:Lu 1:Cn " ++
  "3:Sk 8:Ll 5:Lu 3:Sk 2:Cn 3:Ll 1:Cn 2:Ll 4:Lu 1:Lt 2:Sk 1:Cn B:Zs 5:Cf 6:Pd 2:Po 1:Pi 1:Pf 1:Ps " ++
  "2:Pi 1:Pf 1:Ps 1:Pi 8:Po 1:Zl 1:Zp 5:Cf 1:Zs 9:Po 1:Pi 1:Pf 4:Po 2:Pc 3:Po 1:Sm 1:Ps 1:Pe B:Po " ++
  "1:Sm 1:Po 1:Pc A:Po 1:Zs 5:Cf 1:Cn A:Cf 1:No 1:Lm 2:Cn 6:No 3:Sm 1:Ps 1:Pe 1:Lm A:No 3:Sm 1:Ps " ++
  "1:Pe 1:Cn D:Lm 3:Cn 21:Sc F:Cn D:Mn 4:Me 1:Mn 3:Me C:Mn F:Cn 2:So 1:Lu 4:So 1:Lu 2:So 1:Ll " ++
  "3:Lu 2:Ll 3:Lu 1:Ll 1:So 1:Lu 2:So 1:Sm 5:Lu 6:So 1:Lu 1:So 1:Lu 1:So 1:Lu 1:So 4:Lu 1:So 1:Ll " ++
  "4:Lu 1:Ll 4:Lo 1:Ll 2:So 2:Ll 2:Lu 5:Sm 1:Lu 4:Ll 1:So 1:Sm 2:So 1:Ll 1:So 10:No 23:Nl 1:Lu " ++
  "1:Ll 4:Nl 1:No 2:So 4:Cn 5:Sm 5:So 2:Sm 4:So 1:Sm 2:So 1:Sm 2:So 1:Sm 7:So 1:Sm 1F:So 2:Sm " ++
  "2:So 1:Sm 1:So 1:Sm 1F:So 10C:Sm 8:So 1:Ps 1:Pe 1:Ps 1:Pe 14:So 2:Sm 7:So 1:Ps 1:Pe 51:So 1:Sm " ++
  "1E:So 19:Sm 28:So 6:Sm 48:So 16:Cn B:So 15:Cn 3C:No 4E:So 16:No B7:So 1:Sm 9:So 1:Sm 36:So " ++
  "8:Sm 6F:So 1:Sm F8:So 1:Ps 1:Pe 1:Ps 1:Pe 1:Ps 1:Pe 1:Ps 1:Pe 1:Ps 1:Pe 1:Ps 1:Pe 1:Ps 1:Pe " ++
  "1E:No 2C:So 5:Sm 1:Ps 1:Pe 1F:Sm 1:Ps 1:Pe 1:Ps 1:Pe 1:Ps 1:Pe 1:Ps 1:Pe 1:Ps 1:Pe 10:Sm " ++
  "100:So 83:Sm 1:Ps 1:Pe 1:Ps 1:Pe 1:Ps 1:Pe 1:Ps 1:Pe 1:Ps 1:Pe 1:Ps 1:Pe 1:Ps 1:Pe 1:Ps 1:Pe " ++
  "1:Ps 1:Pe 1:Ps 1:Pe 1:Ps 1:Pe 3F:Sm 1:Ps 1:Pe 1:Ps 1:Pe 20:Sm 1:Ps 1:Pe 102:Sm 30:So 15:Sm " ++
  "2:So 6:Sm 27:So 2:Cn 20:So 1:Cn 69:So 30:Lu 30:Ll 1:Lu 1:Ll 3:Lu 2:Ll 6:La 4:Lu 1:Ll 1:Lu 2:Ll " ++
  "1:Lu 6:Ll 2:Lm 3:Lu 62:Le 2:Ll 6:So 4:La 3:Mn 1:Lu 1:Ll 5:Cn 4:Po 1:No 2:Po 26:Ll 1:Cn 1:Ll " ++
  "5:Cn 1:Ll 2:Cn 38:Lo 7:Cn 1:Lm 1:Po E:Cn 1:Mn 17:Lo 9:Cn 7:Lo 1:Cn 7:Lo 1:Cn 7:Lo 1:Cn 7:Lo " ++
  "1:Cn 7:Lo 1:Cn 7:Lo 1:Cn 7:Lo 1:Cn 7:Lo 1:Cn 20:Mn 2:Po 1:Pi 1:Pf 1:Pi 1:Pf 3:Po 1:Pi 1:Pf " ++
  "1:Po 1:Pi 1:Pf 9:Po 1:Pd 2:Po 1:Pd 1:Po 1:Pi 1:Pf 2:Po 1:Pi 1:Pf 1:Ps 1:Pe 1:Ps 1:Pe 1:Ps 1:Pe " ++
  "1:Ps 1:Pe 5:Po 1:Lm A:Po 2:Pd 4:Po 1:Pd 1:Po 1:Ps D:Po 2:So 3:Po 1:Ps 1:Pe 1:Ps 1:Pe 1:Ps 1:Pe " ++
  "1:Ps 1:Pe 1:Pd 22:Cn 1A:So 1:Cn 59:So C:Cn D6:So 1A:Cn 10:So 1:Zs 3:Po 1:So 1:Lm 1:Lo 1:Nl " ++
  "1:Ps 1:Pe 1:Ps 1:Pe 1:Ps 1:Pe 1:Ps 1:Pe 1:Ps 1:Pe 2:So 1:Ps 1:Pe 1:Ps 1:Pe 1:Ps 1:Pe 1:Ps 1:Pe " ++
  "1:Pd 1:Ps 2:Pe 1:So 9:Nl 4:Mn 2:Mc 1:Pd 5:Lm 2:So 3:Nl 1:Lm 1:Lo 1:Po 2:So 1:Cn 56:Lo 2:Cn " ++
  "2:Mn 2:Sk 2:Lm 1:Lo 1:Pd 5A:Lo 1:Po 3:Lm 1:Lo 5:Cn 2B:Lo 1:Cn 5E:Lo 1:Cn 2:So 4:No A:So 20:Lo " ++
  "26:So 9:Cn 1:So 10:Lo 1F:So 1:Cn A:No 1E:So 8:No 1:So F:No 20:So A:No 27:So F:No 140:So " ++
  "19C0:Lo 40:So 5215:Lo 1:Lm 477:Lo 3:Cn 37:So 9:Cn 28:Lo 6:Lm 2:Po 10C:Lo 1:Lm 3:Po 10:Lo A:Nd " ++
  "2:Lo 14:Cn 2E:Le 1:Lo 1:Mn 3:Me 1:Po A:Mn 1:Po 1:Lm 1C:Le 2:Lm 2:Mn 46:Lo A:Nl 2:Mn 6:Po 8:Cn " ++
  "17:Sk 9:Lm 2:Sk D:Le 3:Ll 3E:Le 1:Lm 8:Ll 4:La 2:Lu 9:Le 1:Lm 2:Sk 4:La 1:Lo 3:Le 3:Ll 14:Le " ++
  "5:Lu 1:Ll 5:Lu F:Le 4:Lu 3:La 2:Lu 1:Ll 2:Cn 1:Lu 1:Ll 1:Cn 1:Ll 1:Cn 8:Le 15:Cn 3:Lm 1:Lu " ++
  "1:Ll 1:Lo 2:Lm 1:Ll 7:Lo 1:Mn 3:Lo 1:Mn 4:Lo 1:Mn 17:Lo 2:Mc 2:Mn 1:Mc 4:So 1:Mn 3:Cn 6:No " ++
  "2:So 1:Sc 1:So 6:Cn 34:Lo 4:Po 8:Cn 2:Mc 32:Lo 10:Mc 2:Mn 8:Cn 2:Po A:Nd 6:Cn 12:Mn 6:Lo 3:Po " ++
  "1:Lo 1:Po 2:Lo 1:Mn A:Nd 1C:Lo 8:Mn 2:Po 17:Lo B:Mn 2:Mc B:Cn 1:Po 1D:Lo 3:Cn 3:Mn 1:Mc 2F:Lo " ++
  "1:Mn 2:Mc 4:Mn 2:Mc 2:Mn 3:Mc D:Po 1:Cn 1:Lm A:Nd 4:Cn 2:Po 5:Lo 1:Mn 1:Lm 9:Lo A:Nd 5:Lo 1:Cn " ++
  "29:Lo 6:Mn 2:Mc 2:Mn 2:Mc 2:Mn 9:Cn 3:Lo 1:Mn 8:Lo 1:Mn 1:Mc 2:Cn A:Nd 2:Cn 4:Po 10:Lo 1:Lm " ++
  "6:Lo 3:So 1:Lo 1:Mc 1:Mn 1:Mc 32:Lo 1:Mn 1:Lo 3:Mn 2:Lo 2:Mn 5:Lo 2:Mn 1:Lo 1:Mn 1:Lo 18:Cn " ++
  "2:Lo 1:Lm 2:Po B:Lo 1:Mc 2:Mn 2:Mc 2:Po 1:Lo 2:Lm 1:Mc 1:Mn A:Cn 6:Lo 2:Cn 6:Lo 2:Cn 6:Lo 9:Cn " ++
  "7:Lo 1:Cn 7:Lo 1:Cn 2B:Ll 1:Sk 4:Lm 9:Ll 1:Lm 2:Sk 4:Cn 50:Ll 23:Lo 2:Mc 1:Mn 2:Mc 1:Mn 2:Mc " ++
  "1:Po 1:Mc 1:Mn 2:Cn A:Nd 6:Cn 2BA4:Lo C:Cn 17:Lo 4:Cn 31:Lo 4:Cn 800:Cs 1900:Co 16E:Lo 2:Cn " ++
  "6A:Lo 26:Cn 7:Ll C:Cn 5:Ll 5:Cn 1:Lo 1:Mn A:Lo 1:Sm D:Lo 1:Cn 5:Lo 1:Cn 1:Lo 1:Cn 2:Lo 1:Cn " ++
  "2:Lo 1:Cn 6C:Lo 11:Sk 10:Cn 16B:Lo 1:Pe 1:Ps 10:So 40:Lo 2:Cn 36:Lo 7:Cn 1:So 20:Cn C:Lo 1:Sc " ++
  "3:So 10:Mn 7:Po 1:Ps 1:Pe 1:Po 6:Cn 10:Mn 1:Po 2:Pd 2:Pc 1:Ps 1:Pe 1:Ps 1:Pe 1:Ps 1:Pe 1:Ps " ++
  "1:Pe 1:Ps 1:Pe 1:Ps 1:Pe 1:Ps 1:Pe 1:Ps 1:Pe 2:Po 1:Ps 1:Pe 4:Po 3:Pc 3:Po 1:Cn 4:Po 1:Pd 1:Ps " ++
  "1:Pe 1:Ps 1:Pe 1:Ps 1:Pe 3:Po 1:Sm 1:Pd 3:Sm 1:Cn 1:Po 1:Sc 2:Po 4:Cn 5:Lo 1:Cn 87:Lo 2:Cn " ++
  "1:Cf 1:Cn 3:Po 1:Sc 3:Po 1:Ps 1:Pe 1:Po 1:Sm 1:Po 1:Pd 2:Po A:Nd 2:Po 3:Sm 2:Po 1A:Lu 1:Ps " ++
  "1:Po 1:Pe 1:Sk 1:Pc 1:Sk 1A:Ll 1:Ps 1:Sm 1:Pe 1:Sm 1:Ps 1:Pe 1:Po 1:Ps 1:Pe 2:Po A:Lo 1:Lm " ++
  "2D:Lo 2:Lm 1F:Lo 3:Cn 6:Lo 2:Cn 6:Lo 2:Cn 6:Lo 2:Cn 3:Lo 3:Cn 2:Sc 1:Sm 1:Sk 1:So 2:Sc 1:Cn " ++
  "1:So 4:Sm 2:So A:Cn 3:Cf 2:So 2:Cn C:Lo 1:Cn 1A:Lo 1:Cn 13:Lo 1:Cn 2:Lo 1:Cn F:Lo 2:Cn E:Lo " ++
  "22:Cn 7B:Lo 5:Cn 3:Po 4:Cn 2D:No 3:Cn 9:So 35:Nl 4:No 11:So 2:No 3:So 1:Cn D:So 3:Cn 1:So " ++
  "2F:Cn 2D:So 1:Mn 82:Cn 1D:Lo 3:Cn 31:Lo F:Cn 1:Mn 1B:No 4:Cn 20:Lo 4:No 9:Cn 14:Lo 1:Nl 8:Lo " ++
  "1:Nl 5:Cn 26:Lo 5:Mn 5:Cn 1E:Lo 1:Cn 1:Po 24:Lo 4:Cn 8:Lo 1:Po 5:Nl 2A:Cn 28:Lu 28:Ll 4E:Lo " ++
  "2:Cn A:Nd 6:Cn 24:Lu 4:Cn 24:Ll 4:Cn 28:Lo 8:Cn 34:Lo B:Cn 1:Po B:Lu 1:Cn F:Lu 1:Cn 7:Lu 1:Cn " ++
  "2:Lu 1:Cn B:Ll 1:Cn F:Ll 1:Cn 7:Ll 1:Cn 2:Ll 3:Cn 34:Lo C:Cn 137:Lo 9:Cn 16:Lo A:Cn 8:Lo 18:Cn " ++
  "6:Lm 1:Cn 2A:Lm 1:Cn 9:Lm 45:Cn 6:Lo 2:Cn 1:Lo 1:Cn 2C:Lo 1:Cn 2:Lo 3:Cn 1:Lo 2:Cn 17:Lo 1:Cn " ++
  "1:Po 8:No 17:Lo 2:So 7:No 1F:Lo 8:Cn 9:No 30:Cn 13:Lo 1:Cn 2:Lo 5:Cn 5:No 16:Lo 6:No 3:Cn 1:Po " ++
  "1A:Lo 5:Cn 1:Po 40:Cn 38:Lo 4:Cn 2:No 2:Lo 10:No 2:Cn 2E:No 1:Lo 3:Mn 1:Cn 2:Mn 5:Cn 4:Mn 4:Lo " ++
  "1:Cn 3:Lo 1:Cn 1D:Lo 2:Cn 3:Mn 4:Cn 1:Mn 9:No 7:Cn 9:Po 7:Cn 1D:Lo 2:No 1:Po 1D:Lo 3:No 20:Cn " ++
  "8:Lo 1:So 1C:Lo 2:Mn 4:Cn 5:No 7:Po 9:Cn 36:Lo 3:Cn 7:Po 16:Lo 2:Cn 8:No 13:Lo 5:Cn 8:No 12:Lo " ++
  "7:Cn 4:Po C:Cn 7:No 50:Cn 49:Lo 37:Cn 33:Lu D:Cn 33:Ll 7:Cn 6:No 24:Lo 4:Mn 8:Cn A:Nd 6:Cn " ++
  "A:Nd 4:Lo 1:Lm 1:Lo 16:Lu 3:Cn 5:Mn 1:Pd 1:Lm 16:Ll 8:Cn 2:Sm D0:Cn 1F:No 1:Cn 2A:Lo 1:Cn 2:Mn " ++
  "1:Pd 2:Cn 2:Lo 10:Cn 3:Lo 37:Cn 4:Mn 1D:Lo A:No 1:Lo 8:Cn 16:Lo B:Mn 4:No 5:Po 16:Cn 12:Lo " ++
  "4:Mn 4:Po 26:Cn 15:Lo 7:No 14:Cn 17:Lo 9:Cn 1:Mc 1:Mn 1:Mc 35:Lo F:Mn 7:Po 4:Cn 14:No A:Nd " ++
  "1:Mn 2:Lo 2:Mn 1:Lo 9:Cn 3:Mn 1:Mc 2D:Lo 3:Mc 4:Mn 2:Mc 2:Mn 2:Po 1:Cf 4:Po 1:Mn A:Cn 1:Cf " ++
  "2:Cn 19:Lo 7:Cn A:Nd 6:Cn 3:Mn 24:Lo 5:Mn 1:Mc 8:Mn 1:Cn A:Nd 4:Po 1:Lo 2:Mc 1:Lo 8:Cn 23:Lo " ++
  "1:Mn 2:Po 1:Lo 9:Cn 2:Mn 1:Mc 30:Lo 3:Mc 9:Mn 2:Mc 4:Lo 4:Po 4:Mn 1:Po 1:Mc 1:Mn A:Nd 1:Lo " ++
  "1:Po 1:Lo 3:Po 1:Cn 14:No B:Cn 12:Lo 1:Cn 19:Lo 3:Mc 3:Mn 2:Mc 1:Mn 1:Mc 2:Mn 6:Po 1:Mn 2:Lo " ++
  "1:Mn 3E:Cn 7:Lo 1:Cn 1:Lo 1:Cn 4:Lo 1:Cn F:Lo 1:Cn A:Lo 1:Po 6:Cn 2F:Lo 1:Mn 3:Mc 8:Mn 5:Cn " ++
  "A:Nd 6:Cn 2:Mn 2:Mc 1:Cn 8:Lo 2:Cn 2:Lo 2:Cn 16:Lo 1:Cn 7:Lo 1:Cn 2:Lo 1:Cn 5:Lo 1:Cn 2:Mn " ++
  "1:Lo 2:Mc 1:Mn 4:Mc 2:Cn 2:Mc 2:Cn 3:Mc 2:Cn 1:Lo 6:Cn 1:Mc 5:Cn 5:Lo 2:Mc 2:Cn 7:Mn 3:Cn 5:Mn " ++
  "B:Cn A:Lo 1:Cn 1:Lo 2:Cn 1:Lo 1:Cn 26:Lo 1:Cn 1:Lo 3:Mc 6:Mn 1:Cn 1:Mc 2:Cn 1:Mc 1:Cn 4:Mc " ++
  "1:Cn 2:Mc 1:Mn 1:Mc 1:Mn 1:Lo 1:Mn 1:Lo 2:Po 1:Cn 2:Po 8:Cn 2:Mn 1D:Cn 35:Lo 3:Mc 8:Mn 2:Mc " ++
  "3:Mn 1:Mc 1:Mn 4:Lo 5:Po A:Nd 2:Po 1:Cn 1:Po 1:Mn 3:Lo 1E:Cn 30:Lo 3:Mc 6:Mn 1:Mc 1:Mn 4:Mc " ++
  "2:Mn 1:Mc 2:Mn 2:Lo 1:Po 1:Lo 8:Cn A:Nd A6:Cn 2F:Lo 3:Mc 4:Mn 2:Cn 4:Mc 2:Mn 1:Mc 2:Mn 17:Po " ++
  "4:Lo 2:Mn 22:Cn 30:Lo 3:Mc 8:Mn 2:Mc 1:Mn 1:Mc 2:Mn 3:Po 1:Lo B:Cn A:Nd 6:Cn D:Po 13:Cn 2B:Lo " ++
  "1:Mn 1:Mc 1:Mn 2:Mc 6:Mn 1:Mc 1:Mn 1:Lo 1:Po 6:Cn A:Nd 6:Cn 14:Nd 1C:Cn 1B:Lo 2:Cn 1:Mn 1:Mc " ++
  "1:Mn 2:Mc 4:Mn 1:Mc 5:Mn 4:Cn A:Nd 2:No 3:Po 1:So 7:Lo B9:Cn 2C:Lo 3:Mc 9:Mn 1:Mc 2:Mn 1:Po " ++
  "64:Cn 20:Lu 20:Ll A:Nd 9:No C:Cn 8:Lo 2:Cn 1:Lo 2:Cn 8:Lo 1:Cn 2:Lo 1:Cn 18:Lo 6:Mc 1:Cn 2:Mc " ++
  "2:Cn 2:Mn 1:Mc 1:Mn 1:Lo 1:Mc 1:Lo 1:Mc 1:Mn 3:Po 9:Cn A:Nd 46:Cn 8:Lo 2:Cn 27:Lo 3:Mc 4:Mn " ++
  "2:Cn 2:Mn 4:Mc 1:Mn 1:Lo 1:Po 1:Lo 1:Mc 1B:Cn 1:Lo A:Mn 28:Lo 6:Mn 1:Mc 1:Lo 4:Mn 8:Po 1:Mn " ++
  "8:Cn 1:Lo 6:Mn 2:Mc 3:Mn 2E:Lo D:Mn 1:Mc 2:Mn 3:Po 1:Lo 5:Po D:Cn 49:Lo 7:Cn A:Po B6:Cn 21:Lo " ++
  "1:Po E:Cn A:Nd 6:Cn 9:Lo 1:Cn 25:Lo 1:Mc 7:Mn 1:Cn 6:Mn 1:Mc 1:Mn 1:Lo 5:Po A:Cn A:Nd 13:No " ++
  "3:Cn 2:Po 1E:Lo 2:Cn 16:Mn 1:Cn 1:Mc 7:Mn 1:Mc 2:Mn 1:Mc 2:Mn 49:Cn 7:Lo 1:Cn 2:Lo 1:Cn 26:Lo " ++
  "6:Mn 3:Cn 1:Mn 1:Cn 2:Mn 1:Cn 7:Mn 1:Lo 1:Mn 8:Cn A:Nd 6:Cn 6:Lo 1:Cn 2:Lo 1:Cn 20:Lo 5:Mc " ++
  "1:Cn 2:Mn 1:Cn 2:Mc 1:Mn 1:Mc 1:Mn 1:Lo 7:Cn A:Nd 136:Cn 13:Lo 2:Mn 2:Mc 2:Po 7:Cn 2:Mn 1:Lo " ++
  "1:Mc D:Lo 1:Cn 22:Lo 2:Mc 5:Mn 3:Cn 2:Mc 1:Mn 1:Mc 1:Mn D:Po A:Nd 1:Mn 55:Cn 1:Lo F:Cn 15:No " ++
  "8:So 4:Sc 11:So D:Cn 1:Po 39A:Lo 66:Cn 6F:Nl 1:Cn 5:Po B:Cn C4:Lo A4C:Cn 61:Lo 2:Po D:Cn " ++
  "430:Lo 10:Cf 1:Mn 6:Lo F:Mn A:Cn F9B:Lo 5:Cn 247:Lo 1AB9:Cn 1E:Lo C:Mn 3:Mc 3:Mn A:Nd 6C6:Cn " ++
  "239:Lo 7:Cn 1F:Lo 1:Cn A:Nd 4:Cn 2:Po 4F:Lo 1:Cn A:Nd 6:Cn 1E:Lo 2:Cn 5:Mn 1:Po A:Cn 30:Lo " ++
  "7:Mn 5:Po 4:So 4:Lm 1:Po 1:So A:Cn A:Nd 1:Cn 7:No 1:Cn 15:Lo 5:Cn 13:Lo 1B0:Cn 3:Lm 28:Lo 2:Lm " ++
  "3:Po A:Nd C6:Cn 20:Lu 20:Ll 17:No 4:Po 65:Cn 4B:Lo 4:Cn 1:Mn 1:Lo 37:Mc 7:Cn 4:Mn D:Lm 40:Cn " ++
  "2:Lm 1:Po 1:Lm 1:Mn B:Cn 2:Mc E:Cn 17F8:Lo 8:Cn 4D6:Lo 29:Cn A:Lo 22E7:Cn 4:Lm 1:Cn 7:Lm 1:Cn " ++
  "2:Lm 1:Cn 123:Lo F:Cn 1:Lo 1D:Cn 3:Lo 2:Cn 1:Lo E:Cn 4:Lo 8:Cn 18C:Lo 904:Cn 6B:Lo 5:Cn D:Lo " ++
  "3:Cn 9:Lo 7:Cn A:Lo 2:Cn 1:So 2:Mn 1:Po 4:Cf F5C:Cn F0:So A:Nd 6:Cn 1B4:So 4C:Cn 2E:Mn 2:Cn " ++
  "17:Mn 9:Cn 74:So 3C:Cn F6:So A:Cn 27:So 2:Cn 3C:So 2:Mc 3:Mn 3:So 6:Mc 8:Cf 8:Mn 2:So 7:Mn " ++
  "1E:So 4:Mn 3D:So 15:Cn 42:So 3:Mn 1:So 7A:Cn 14:No C:Cn 14:No C:Cn 57:So 9:Cn 19:No 87:Cn " ++
  "1A:Lu 1A:Ll 1A:Lu 7:Ll 1:Cn 12:Ll 1A:Lu 1A:Ll 1:Lu 1:Cn 2:Lu 2:Cn 1:Lu 2:Cn 2:Lu 2:Cn 4:Lu " ++
  "1:Cn 8:Lu 4:Ll 1:Cn 1:Ll 1:Cn 7:Ll 1:Cn B:Ll 1A:Lu 1A:Ll 2:Lu 1:Cn 4:Lu 2:Cn 8:Lu 1:Cn 7:Lu " ++
  "1:Cn 1A:Ll 2:Lu 1:Cn 4:Lu 1:Cn 5:Lu 1:Cn 1:Lu 3:Cn 7:Lu 1:Cn 1A:Ll 1A:Lu 1A:Ll 1A:Lu 1A:Ll " ++
  "1A:Lu 1A:Ll 1A:Lu 1A:Ll 1A:Lu 1A:Ll 1A:Lu 1C:Ll 2:Cn 19:Lu 1:Sm 19:Ll 1:Sm 6:Ll 19:Lu 1:Sm " ++
  "19:Ll 1:Sm 6:Ll 19:Lu 1:Sm 19:Ll 1:Sm 6:Ll 19:Lu 1:Sm 19:Ll 1:Sm 6:Ll 19:Lu 1:Sm 19:Ll 1:Sm " ++
  "6:Ll 1:Lu 1:Ll 2:Cn 32:Nd 200:So 37:Mn 4:So 32:Mn 8:So 1:Mn E:So 1:Mn 2:So 5:Po F:Cn 5:Mn 1:Cn " ++
  "F:Mn 450:Cn A:Ll 1:Lo 14:Ll 6:Cn 6:Ll D5:Cn 7:Mn 1:Cn 11:Mn 2:Cn 7:Mn 1:Cn 2:Mn 1:Cn 5:Mn 5:Cn " ++
  "3E:Lm 21:Cn 1:Mn 70:Cn 2D:Lo 3:Cn 7:Mn 7:Lm 2:Cn A:Nd 4:Cn 1:Lo 1:So 140:Cn 1E:Lo 1:Mn 11:Cn " ++
  "2C:Lo 4:Mn A:Nd 5:Cn 1:Sc 1D0:Cn 1B:Lo 1:Lm 4:Mn A:Nd D6:Cn 1E:Lo 2:Mn 1:Lo A:Nd 4:Cn 1:Po " ++
  "1E0:Cn 7:Lo 1:Cn 4:Lo 1:Cn 2:Lo 1:Cn F:Lo 1:Cn C5:Lo 2:Cn 9:No 7:Mn 29:Cn 22:Lu 22:Ll 7:Mn " ++
  "1:Lm 4:Cn A:Nd 4:Cn 2:Po 311:Cn 3B:No 1:So 3:No 1:Sc 4:No 4C:Cn 2D:No 1:So F:No C2:Cn 4:Lo " ++
  "1:Cn 1B:Lo 1:Cn 2:Lo 1:Cn 1:Lo 2:Cn 1:Lo 1:Cn A:Lo 1:Cn 4:Lo 1:Cn 1:Lo 1:Cn 1:Lo 6:Cn 1:Lo " ++
  "4:Cn 1:Lo 1:Cn 1:Lo 1:Cn 1:Lo 1:Cn 3:Lo 1:Cn 2:Lo 1:Cn 1:Lo 2:Cn 1:Lo 1:Cn 1:Lo 1:Cn 1:Lo 1:Cn " ++
  "1:Lo 1:Cn 1:Lo 1:Cn 2:Lo 1:Cn 1:Lo 2:Cn 4:Lo 1:Cn 7:Lo 1:Cn 4:Lo 1:Cn 4:Lo 1:Cn 1:Lo 1:Cn A:Lo " ++
  "1:Cn 11:Lo 5:Cn 3:Lo 1:Cn 5:Lo 1:Cn 11:Lo 34:Cn 2:Sm 10E:Cn 2C:So 4:Cn 64:So C:Cn F:So 2:Cn " ++
  "F:So 1:Cn F:So 1:Cn 25:So A:Cn D:No A1:So 38:Cn 1D:So D:Cn 2C:So 4:Cn 9:So 7:Cn 2:So E:Cn 6:So " ++
  "9A:Cn FB:So 5:Sk 2D8:So 4:Cn 11:So 3:Cn D:So 3:Cn 77:So 4:Cn 5F:So 6:Cn C:So 4:Cn 1:So F:Cn " ++
  "C:So 4:Cn 38:So 8:Cn A:So 6:Cn 28:So 8:Cn 1E:So 2:Cn C:So 4:Cn 2:So 3E:Cn 154:So C:Cn E:So " ++
  "2:Cn D:So 3:Cn A:So 5:Cn 38:So 7:Cn F:So 2:Cn B:So 6:Cn 9:So 7:Cn 93:So 1:Cn 5C:So A:Nd 406:Cn " ++
  "A6E0:Lo 20:Cn 103A:Lo 6:Cn DE:Lo 2:Cn 1682:Lo E:Cn 1D31:Lo F:Cn 26E:Lo 9A2:Cn 21E:Lo 5E2:Cn " ++
  "134B:Lo 5:Cn 1060:Lo ADC51:Cn 1:Cf 1E:Cn 60:Cf 80:Cn F0:Mn FE10:Cn FFFE:Co 2:Cn FFFE:Co 2:Cn"

/-- The runs of equal categories, by their starts. -/
def categoryRuns : Runs := Runs.ofLengths categoryText

/-- The general category of a code point. -/
def categoryOf (n : Nat) : String :=
  match categoryRuns.value n with
  | "Le" => if n % 2 = 0 then "Lu" else "Ll"
  | "La" => if n % 2 = 0 then "Ll" else "Lu"
  | category => category

end SiteBuilder.Text
