import FoxScript.Unicode.CodeSet

/-!
# Ages

The version of the standard that assigned a code point, as runs of neighbours of one version.
-/
namespace FoxScript.Unicode

/-- The runs of code points from U+0000 on: a count and the version that assigned so many code
points, or nothing where they are not assigned. -/
def ageRuns : String :=
  String.join
    ["502V1_1 4V3_0 30V1_1 8V3_0 1V3_2 1V4_0 18V3_0 3V4_0 11V4_1 14V5_0 89V1_1 5V3_0 2V4_0 ",
     "47V1_1 1V3_0 10V1_1 5V3_0 17V4_0 70V1_1 9V3_0 1V3_2 8V4_0 5V4_1 3V4_0 2V1_1 1V3_0 13V3_2 ",
     "4V5_1 2V1_1 2V5_1 2 1V1_1 3V5_0 1V1_1 1V7_0 4 7V1_1 1 1V1_1 1 20V1_1 1 44V1_1 1V5_1 7V1_1 ",
     "1V3_0 2V3_2 1V1_1 1V3_0 1V1_1 1V3_0 1V1_1 1V3_0 1V1_1 1V3_0 18V1_1 2V3_1 1V3_2 5V4_0 ",
     "4V4_1 1V3_0 12V1_1 1V3_0 66V1_1 1V3_0 12V1_1 1V3_0 41V1_1 1V5_1 2V3_0 2V3_2 4V3_0 53V1_1 ",
     "2V3_2 2V1_1 2V3_2 2V1_1 2V3_2 1V5_0 28V1_1 2V3_0 8V1_1 2V4_1 2V1_1 6V5_0 16V3_2 4V5_0 ",
     "16V5_1 2V5_2 2V6_0 8V7_0 1 38V1_1 2 7V1_1 1V11_0 39V1_1 1V11_0 1V1_1 1V3_0 2 2V7_0 1V6_1 ",
     "1 17V2_0 1V4_1 13V2_0 10V1_1 1V5_0 9V1_1 1V2_0 3V4_1 8 27V1_1 4 1V11_0 5V1_1 11 4V4_0 ",
     "1V6_1 1V7_0 5V5_1 1V4_1 1V1_1 9V4_0 5V5_1 1V1_1 1V6_3 1V14_0 1V4_1 1V1_1 1V6_0 26V1_1 ",
     "5V5_1 19V1_1 3V3_0 3V4_0 6V4_1 1V6_0 14V1_1 2V3_2 72V1_1 2V3_0 5V1_1 1V3_0 15V1_1 1V3_0 ",
     "30V1_1 2V4_0 10V1_1 5V3_0 1V4_0 14V3_0 1 30V3_0 3V4_0 27V3_0 2 3V4_0 30V4_1 18V5_1 49V3_0 ",
     "1V3_2 14 59V5_0 2 3V11_0 46V5_2 2 15V5_2 1 28V6_0 2 1V6_0 1 11V10_0 5 31V14_0 1 2V14_0 5 ",
     "1V16_0 8V14_0 1V6_1 1V7_0 11V6_1 6V7_0 2V8_0 1V14_0 8V9_0 10V13_0 11V14_0 1V11_0 15V9_0 ",
     "1V8_0 27V6_1 1V7_0 1V5_2 3V1_1 1V4_0 53V1_1 2V6_0 18V1_1 1V5_2 1V6_0 5V1_1 1V5_2 2V6_0 ",
     "25V1_1 2V5_1 5V6_0 1V7_0 2V5_2 2V5_0 1V4_1 2V5_0 1V7_0 3V1_1 1 8V1_1 2 2V1_1 2 22V1_1 1 ",
     "7V1_1 1 1V1_1 3 4V1_1 2 1V1_1 1V4_0 7V1_1 2 2V1_1 2 3V1_1 1V4_1 8 1V1_1 4 2V1_1 1 5V1_1 2 ",
     "21V1_1 1V5_2 2V10_0 1V11_0 2 1V4_0 1V1_1 1V4_0 1 6V1_1 4 2V1_1 2 22V1_1 1 7V1_1 1 2V1_1 1 ",
     "2V1_1 1 2V1_1 2 1V1_1 1 5V1_1 4 2V1_1 2 3V1_1 3 1V5_1 7 4V1_1 1 1V1_1 7 15V1_1 1V5_1 ",
     "1V11_0 10 3V1_1 1 7V1_1 1V4_0 1V1_1 1 3V1_1 1 22V1_1 1 7V1_1 1 2V1_1 1 5V1_1 2 10V1_1 1 ",
     "3V1_1 1 3V1_1 2 1V1_1 15 1V1_1 3V4_0 2 10V1_1 1V6_1 1V4_0 7 1V8_0 6V10_0 1 3V1_1 1 8V1_1 ",
     "2 2V1_1 2 22V1_1 1 7V1_1 1 2V1_1 1 1V4_0 4V1_1 2 8V1_1 1V5_1 2 2V1_1 2 3V1_1 7 1V13_0 ",
     "2V1_1 4 2V1_1 1 3V1_1 2V5_1 2 11V1_1 1V4_0 6V6_0 10 2V1_1 1 6V1_1 3 3V1_1 1 4V1_1 3 2V1_1 ",
     "1 1V1_1 1 2V1_1 3 2V1_1 3 3V1_1 3 8V1_1 1V4_1 3V1_1 4 5V1_1 3 3V1_1 1 4V1_1 2 1V5_1 6 ",
     "1V1_1 14 1V4_1 12V1_1 8V4_0 5 1V7_0 3V1_1 1V11_0 8V1_1 1 3V1_1 1 23V1_1 1 10V1_1 1V7_0 ",
     "5V1_1 2 1V14_0 1V5_1 7V1_1 1 3V1_1 1 4V1_1 7 2V1_1 1 2V5_1 1V8_0 2 1V14_0 2 2V1_1 2V5_1 2 ",
     "10V1_1 7 1V12_0 8V5_1 1V9_0 1V7_0 2V1_1 1V11_0 8V1_1 1 3V1_1 1 23V1_1 1 10V1_1 1 5V1_1 2 ",
     "2V4_0 7V1_1 1 3V1_1 1 4V1_1 7 2V1_1 6 1V14_0 1V1_1 1 2V1_1 2V5_0 2 10V1_1 1 2V5_0 1V15_0 ",
     "12 1V10_0 1V7_0 2V1_1 1V13_0 8V1_1 1 3V1_1 1 23V1_1 1V6_0 16V1_1 1V6_0 2V10_0 1V5_1 6V1_1 ",
     "1V5_1 1 3V1_1 1 4V1_1 1V6_0 1V9_0 4 3V9_0 1V1_1 7V9_0 1V8_0 2V1_1 2V5_1 2 10V1_1 6V5_1 ",
     "3V9_0 7V5_1 1 1V13_0 2V3_0 1 18V3_0 3 24V3_0 1 9V3_0 1 1V3_0 2 7V3_0 3 1V3_0 4 6V3_0 1 ",
     "1V3_0 1 8V3_0 6 10V7_0 2 3V3_0 12 58V1_1 4 29V1_1 37 2V1_1 1 1V1_1 1 1V12_0 2V1_1 1V12_0 ",
     "1V1_1 1 1V12_0 1V1_1 6V12_0 4V1_1 1V12_0 7V1_1 1V12_0 3V1_1 1 1V1_1 1 1V1_1 2V12_0 2V1_1 ",
     "1V12_0 13V1_1 1V12_0 3V1_1 2 5V1_1 1 1V1_1 1 6V1_1 1V15_0 1 10V1_1 2 2V1_1 2V6_1 32 ",
     "72V2_0 1 33V2_0 1V3_0 2V5_1 4 27V2_0 4V6_0 6V2_0 1V3_0 1V2_0 1 21V2_0 3V3_0 7V2_0 1V3_0 ",
     "1V2_0 3V3_0 1 15V3_0 1 1V5_1 1V3_0 2V4_1 3V5_1 4V5_2 2V6_0 37 34V3_0 1V5_1 5V3_0 1V5_1 ",
     "2V3_0 1V5_1 7V3_0 3V5_1 4V3_0 6V5_1 26V3_0 64V5_1 4V5_2 2V5_1 38V1_1 1 1V6_1 5 1V6_1 2 ",
     "39V1_1 2V3_2 2V4_1 1V1_1 1V4_1 3V6_1 90V1_1 5V5_2 68V1_1 5V5_2 82V1_1 6V5_2 7V3_0 1V4_1 ",
     "63V3_0 1V4_1 1V3_0 1 4V3_0 2 7V3_0 1 1V3_0 1 4V3_0 2 39V3_0 1V4_1 1V3_0 1 4V3_0 2 31V3_0 ",
     "1V4_1 1V3_0 1 4V3_0 2 7V3_0 1 1V3_0 1 4V3_0 2 7V3_0 1V4_1 7V3_0 1 23V3_0 1V4_1 31V3_0 ",
     "1V4_1 1V3_0 1 4V3_0 2 7V3_0 1V4_1 39V3_0 1V4_1 19V3_0 2 2V6_0 2V4_1 28V3_0 3 26V4_1 6 ",
     "85V3_0 1V8_0 2 6V8_0 2 1V5_2 630V3_0 9V5_2 29V3_0 3 81V3_0 8V7_0 7 13V3_2 1V14_0 7V3_2 ",
     "1V14_0 9 1V14_0 23V3_2 9 20V3_2 12 13V3_2 1 3V3_2 1 2V3_2 12 93V3_0 1V4_0 2 10V3_0 6 ",
     "10V4_0 6 15V3_0 1V14_0 10V3_0 6 88V3_0 1V11_0 7 42V3_0 1V5_1 5 70V5_2 10 29V4_0 2V7_0 1 ",
     "12V4_0 4 12V4_0 4 1V4_0 3 42V4_0 2 5V4_0 11 42V4_1 2V5_2 4 26V4_1 6 10V4_1 1V5_2 3 2V4_1 ",
     "32V4_0 28V4_1 2 2V4_1 63V5_2 1 29V5_2 2 11V5_2 6 10V5_2 6 14V5_2 2 15V7_0 2V13_0 14V14_0 ",
     "49 76V5_0 1V14_0 1 2V16_0 45V5_0 2V14_0 1V16_0 43V5_1 3V6_1 12V5_1 6V6_1 52V6_0 8 4V6_0 ",
     "56V5_1 3 15V5_1 3 51V5_1 9V9_0 2V16_0 5 43V11_0 2 3V11_0 8V6_1 8 35V5_2 4V6_1 1V10_0 ",
     "2V7_0 1V12_0 5 108V4_0 88V4_1 7V5_0 28V5_1 15V7_0 4V10_0 1V14_0 1V9_0 1V6_0 1V5_2 2V5_0 ",
     "155V1_1 1V2_0 4V5_1 90V1_1 6V5_1 22V1_1 2 6V1_1 2 38V1_1 2 6V1_1 2 8V1_1 1 1V1_1 1 1V1_1 ",
     "1 1V1_1 1 31V1_1 2 53V1_1 1 15V1_1 1 14V1_1 2 6V1_1 1 19V1_1 2 3V1_1 1 9V1_1 1 47V1_1 ",
     "1V3_0 23V1_1 1V3_2 6V3_0 5V3_2 2V4_0 2V4_1 1V3_2 7V4_1 5V3_2 1V5_1 1 4V6_3 7V1_1 1V3_2 2 ",
     "27V1_1 1 5V4_1 8V6_0 3 11V1_1 1V2_0 1V2_1 3V3_0 2V3_2 4V4_1 3V5_2 1V6_0 1V6_2 3V7_0 1V8_0 ",
     "1V10_0 1V14_0 15 18V1_1 2V3_0 7V3_2 1V4_1 4V5_0 1V5_1 15 57V1_1 2V3_0 1V4_0 1V4_1 15V3_2 ",
     "1V4_1 2V5_0 1V5_1 3V5_2 48V1_1 1V3_0 1V5_0 4V5_1 1V5_2 2V8_0 4 91V1_1 9V3_0 12V3_2 ",
     "242V1_1 14V3_2 1V1_1 1V3_0 121V1_1 1V3_0 1V3_2 30V3_0 52V3_2 2V4_0 11V4_1 12V5_0 1V5_2 ",
     "11V6_0 7V7_0 4V9_0 1V10_0 37V1_1 2V3_0 3V16_0 22 11V1_1 21 139V1_1 20V3_2 1V4_0 150V1_1 ",
     "10V3_2 80V1_1 8V3_0 8V3_2 20V1_1 2V4_0 2V3_2 1V4_1 1V3_0 86V1_1 2V3_0 12V3_2 2V4_1 10V3_2 ",
     "8V4_0 11V4_1 1V5_1 2V5_2 2V4_0 16V4_1 1V5_0 10V5_1 3V5_2 4V5_1 10V5_2 1V6_0 19V5_2 1V6_0 ",
     "1V5_2 4V6_0 24V5_2 1V7_0 4V1_1 1V6_0 4V1_1 2V6_0 28V1_1 1V6_0 35V1_1 1V6_0 1V1_1 1V6_0 ",
     "4V1_1 3V6_0 1V1_1 1V5_2 7V1_1 2V6_0 7V1_1 14V3_2 31V1_1 3V6_0 24V1_1 1V6_0 14V1_1 1V6_0 ",
     "7V4_1 4V5_0 1V6_1 1V5_1 1V6_1 2V6_0 28V3_2 4V5_1 16V3_2 256V3_0 512V3_2 14V4_0 6V4_1 ",
     "7V5_0 5V5_1 4V5_0 41V5_1 3V7_0 5V5_1 5V5_2 26V7_0 2 32V7_0 1 1V13_0 34V7_0 3V11_0 12V7_0 ",
     "1V12_0 8V7_0 1V10_0 25V11_0 4V8_0 15V11_0 1V12_0 47V4_1 1V14_0 47V4_1 1V14_0 13V5_0 3V5_1 ",
     "1V5_2 3V5_1 4V5_0 6V5_1 2V5_2 107V4_1 7V5_2 2V6_1 5 45V4_1 1 1V6_1 5 1V6_1 2 54V4_1 2V6_1 ",
     "7 1V4_1 1V6_0 14 1V6_0 23V4_1 9 7V4_1 1 7V4_1 1 7V4_1 1 7V4_1 1 7V4_1 1 7V4_1 1 7V4_1 1 ",
     "7V4_1 1 32V5_1 24V4_1 4V5_1 2V4_1 19V5_1 1V5_2 10V6_1 7V7_0 2V9_0 5V10_0 5V11_0 1V12_0 ",
     "3V13_0 11V14_0 34 26V3_0 1 89V3_0 12 214V3_0 26 12V3_0 4V15_1 56V1_1 3V3_0 3V3_2 1V3_0 ",
     "1V1_1 1 84V1_1 2V3_2 2 6V1_1 2V3_2 94V1_1 1V3_2 5 40V1_1 1V5_1 1V10_0 1V11_0 1 94V1_1 1 ",
     "16V1_1 24V3_0 3V6_0 5V13_0 16V4_1 20V5_1 2V16_0 9 1V15_1 16V3_2 29V1_1 2V4_0 1 36V1_1 ",
     "12V5_2 1V4_0 15V3_2 28V1_1 2V4_0 1V4_1 50V1_1 15V3_2 12V1_1 4V4_0 47V1_1 1V12_1 119V1_1 ",
     "4V4_0 99V1_1 2V4_0 31V1_1 1V4_0 6582V3_0 10V13_0 64V4_0 20902V1_1 22V4_1 8V5_1 8V5_2 ",
     "1V6_1 9V8_0 21V10_0 5V11_0 13V13_0 3V14_0 1165V3_0 3 18V3_0 2V3_2 16V3_0 1V3_2 12V3_0 ",
     "1V3_2 3V3_0 1V3_2 1V3_0 9 48V5_2 300V5_1 20 32V5_1 2V6_0 18V5_1 8V6_1 28V5_1 6V7_0 1V8_0 ",
     "1V6_1 88V5_2 8 23V4_1 4V5_0 5V5_1 2V5_0 107V5_1 2V6_0 1V8_0 2V6_0 2V6_1 12V7_0 10V6_0 ",
     "1V6_1 3V7_0 1V9_0 1V11_0 2V7_0 6V8_0 2V11_0 6V12_0 2V14_0 5V12_0 4V13_0 3V16_0 2 2V14_0 1 ",
     "1V14_0 1 5V14_0 3V16_0 21 3V14_0 2V13_0 1V7_0 2V6_1 1V6_0 5V5_1 44V4_1 1V13_0 3 10V5_2 6 ",
     "56V5_0 8 69V5_1 1V9_0 8 12V5_1 6 28V5_2 2V8_0 2V11_0 84V5_1 11 1V5_1 29V5_2 3 78V5_2 1 ",
     "11V5_2 4 2V5_2 31V7_0 1 55V5_1 9 14V5_1 2 10V5_1 2 4V5_1 28V5_2 4V7_0 67V5_2 24 5V5_2 ",
     "23V6_1 10 6V6_0 2 6V6_0 2 6V6_0 9 7V6_0 1 7V6_0 1 48V7_0 4V8_0 2V7_0 2V12_0 4V13_0 4 ",
     "80V8_0 46V5_2 2 10V5_2 6 11172V2_0 12 23V5_2 4 49V5_2 2052 6702V1_1 2V6_1 59V3_2 3V5_2 2 ",
     "106V4_1 38 7V1_1 12 5V1_1 5 1V3_0 25V1_1 1 5V1_1 1 1V1_1 1 2V1_1 1 2V1_1 1 108V1_1 16V6_0 ",
     "1V14_0 16 365V1_1 16V14_0 64V1_1 2 54V1_1 7 1V14_0 32V3_1 12V1_1 1V3_2 1V4_0 2V14_0 ",
     "16V3_2 10V4_1 6 4V1_1 3V5_1 7V7_0 2V8_0 21V1_1 2V3_2 2V4_0 10V1_1 1 19V1_1 1 4V1_1 4 ",
     "3V1_1 1V3_2 1V1_1 1 135V1_1 2 1V1_1 1 94V1_1 2V3_2 94V1_1 3 6V1_1 2 6V1_1 2 6V1_1 2 3V1_1 ",
     "3 7V1_1 1 7V1_1 10 3V3_0 1V2_1 3V1_1 12V4_0 1 26V4_0 1 19V4_0 1 2V4_0 1 15V4_0 2 14V4_0 ",
     "34 123V4_0 5 3V4_0 4 45V4_0 3 9V4_0 75V4_1 2V7_0 2V9_0 1 12V5_1 1V13_0 3 1V7_0 47 46V5_1 ",
     "130 29V5_1 3 49V5_1 15 28V7_0 4 31V3_1 1V7_0 4V3_1 9 3V10_0 27V3_1 5 43V7_0 5 30V4_0 1 ",
     "1V4_0 36V4_1 4 14V4_1 42 38V3_1 2V4_0 38V3_1 80V4_0 2 10V4_0 6 36V9_0 4 36V9_0 4 40V7_0 8 ",
     "52V7_0 11 1V7_0 11V14_0 1 15V14_0 1 7V14_0 1 2V14_0 1 11V14_0 1 15V14_0 1 7V14_0 1 2V14_0 ",
     "3 52V16_0 12 311V7_0 9 22V7_0 10 8V7_0 24 6V14_0 1 42V14_0 1 9V14_0 69 6V4_0 2 1V4_0 1 ",
     "44V4_0 1 2V4_0 3 1V4_0 2 1V4_0 22V5_2 1 9V5_2 63V7_0 8 9V7_0 48 19V8_0 1 2V8_0 5 5V8_0 ",
     "26V5_0 2V5_2 3 1V5_0 26V5_1 5 1V5_1 64 56V6_1 4 2V8_0 2V6_1 16V8_0 2 46V8_0 4V4_1 1 2V4_1 ",
     "5 8V4_1 1 3V4_1 1 27V4_1 2V11_0 2 3V4_1 4 9V4_1 1V11_0 7 9V4_1 7 32V5_2 32V7_0 32 39V7_0 ",
     "4 12V7_0 9 54V5_2 3 29V5_2 2 27V5_2 5 8V5_2 18V7_0 7 4V7_0 12 7V7_0 80 73V5_2 55 51V8_0 ",
     "13 51V8_0 7 6V8_0 40V11_0 8 10V11_0 6 38V16_0 3 29V16_0 8 2V16_0 208 31V5_2 1 42V13_0 1 ",
     "3V13_0 2 2V13_0 16 3V16_0 55 1V16_0 3V15_0 40V11_0 8 42V11_0 22 26V14_0 38 28V13_0 20 ",
     "23V12_0 9 78V6_0 4 30V6_0 6V14_0 9 1V7_0 66V5_2 1V14_0 10 1V11_0 2 25V6_1 7 10V6_1 6 ",
     "53V6_1 1 14V6_1 3V11_0 1V13_0 8 39V7_0 9 73V6_1 4V8_0 1V7_0 2V13_0 10V6_1 1V7_0 5V8_0 1 ",
     "20V7_0 11 18V7_0 1 43V7_0 1V9_0 3V15_0 62 7V8_0 1 1V8_0 1 4V8_0 1 15V8_0 1 11V8_0 6 ",
     "59V7_0 5 10V7_0 6 1V8_0 3V7_0 1 8V7_0 2 2V7_0 2 22V7_0 1 7V7_0 1 2V7_0 1 5V7_0 1 1V11_0 ",
     "9V7_0 2 2V7_0 2 3V7_0 2 1V8_0 6 1V7_0 5 7V7_0 2 7V7_0 3 5V7_0 11 10V16_0 1 1V16_0 2 ",
     "1V16_0 1 38V16_0 1 10V16_0 1 1V16_0 2 1V16_0 1 4V16_0 1 10V16_0 1 2V16_0 8 2V16_0 29 ",
     "90V9_0 1V13_0 1V9_0 1 1V9_0 1V11_0 1V12_0 2V13_0 30 72V7_0 8 10V7_0 166 54V7_0 2 18V7_0 ",
     "20V8_0 34 69V7_0 11 10V7_0 6 13V9_0 19 56V6_1 1V12_0 1V14_0 6 10V6_1 6 20V16_0 28 26V8_0 ",
     "1V11_0 2 15V8_0 4 16V8_0 7V14_0 185 60V11_0 100 83V7_0 12 1V7_0 7V13_0 2 1V13_0 2 8V13_0 ",
     "1 2V13_0 1 30V13_0 1 2V13_0 2 12V13_0 9 10V13_0 70 8V12_0 2 46V12_0 2 11V12_0 27 72V10_0 ",
     "8 52V10_0 2V12_0 23V10_0 1V11_0 5V10_0 13 16V14_0 57V7_0 7 10V15_0 182 34V16_0 14 10V16_0 ",
     "6 9V9_0 1 45V9_0 1 14V9_0 10 29V9_0 3 32V9_0 2 22V9_0 1 14V9_0 73 7V10_0 1 2V10_0 1 ",
     "44V10_0 3 1V10_0 1 2V10_0 1 9V10_0 8 10V10_0 6 6V11_0 1 2V11_0 1 37V11_0 1 2V11_0 1 ",
     "6V11_0 7 10V11_0 310 25V11_0 7 17V15_0 1 41V15_0 3 28V15_0 1V16_0 85 1V13_0 15 50V12_0 13 ",
     "1V12_0 879V5_0 42V7_0 1V8_0 102 99V5_0 12V7_0 1 4V5_0 1V7_0 11 196V8_0 2636 99V14_0 13 ",
     "1071V5_2 1V15_0 9V12_0 29V15_0 10 3995V16_0 5 583V8_0 6841 58V16_0 1734 569V6_0 7 31V7_0 ",
     "1 10V7_0 4 2V7_0 79V14_0 1 10V14_0 6 30V7_0 2 6V7_0 10 70V7_0 10 10V7_0 1 7V7_0 1 21V7_0 ",
     "5 19V7_0 432 58V16_0 198 91V11_0 101 69V6_1 6V12_0 4 1V12_0 47V6_1 9V12_0 7 17V6_1 64 ",
     "1V9_0 1V10_0 2V12_0 1V13_0 11 2V13_0 14 6125V9_0 5V11_0 6V12_0 8 755V9_0 483V13_0 41 ",
     "1V16_0 9V13_0 8935 4V14_0 1 7V14_0 1 2V14_0 1 2V6_0 285V10_0 4V14_0 15 1V15_0 29 3V12_0 2 ",
     "1V15_0 14 4V12_0 8 396V10_0 2308 107V7_0 5 13V7_0 3 9V7_0 7 10V7_0 2 8V7_0 3932 250V16_0 ",
     "6 436V16_0 76 46V14_0 2 23V14_0 9 116V14_0 60 246V3_1 10 39V3_1 2 1V5_1 180V3_1 11V8_0 ",
     "2V14_0 21 70V4_1 122 20V15_0 12 20V11_0 12 87V4_0 9 18V5_0 7V11_0 135 85V3_1 1 71V3_1 1 ",
     "2V3_1 2 1V3_1 2 2V3_1 2 4V3_1 1 12V3_1 1 1V3_1 1 4V3_1 1V4_0 2V3_1 1 65V3_1 1 4V3_1 2 ",
     "8V3_1 1 7V3_1 1 28V3_1 1 4V3_1 1 5V3_1 1 1V3_1 3 7V3_1 1 338V3_1 2V4_1 2 290V3_1 2V5_0 2 ",
     "50V3_1 652V8_0 15 5V8_0 1 15V8_0 1104 31V14_0 6 6V15_0 213 7V9_0 1 17V9_0 2 7V9_0 1 2V9_0 ",
     "1 5V9_0 5 62V15_0 33 1V15_0 112 45V12_0 3 14V12_0 2 10V12_0 4 2V12_0 320 31V14_0 17 ",
     "58V12_0 5 1V12_0 464 42V15_0 214 43V16_0 4 1V16_0 480 7V14_0 1 4V14_0 1 2V14_0 1 15V14_0 ",
     "1 197V7_0 2 16V7_0 41 75V9_0 1V12_0 4 10V9_0 4 2V9_0 785 68V11_0 76 61V12_0 194 4V6_1 1 ",
     "27V6_1 1 2V6_1 1 1V6_1 2 1V6_1 1 10V6_1 1 4V6_1 1 1V6_1 1 1V6_1 6 1V6_1 4 1V6_1 1 1V6_1 1 ",
     "1V6_1 1 3V6_1 1 2V6_1 1 1V6_1 2 1V6_1 1 1V6_1 1 1V6_1 1 1V6_1 1 1V6_1 1 2V6_1 1 1V6_1 2 ",
     "4V6_1 1 7V6_1 1 4V6_1 1 4V6_1 1 1V6_1 1 10V6_1 1 17V6_1 5 3V6_1 1 5V6_1 1 17V6_1 52 2V6_1 ",
     "270 44V5_1 4 100V5_1 12 15V6_0 2 14V6_0 1V7_0 1 15V6_0 1 15V6_0 22V7_0 10 11V5_2 2V7_0 ",
     "3V13_0 31V5_2 1V11_0 1V6_0 1V5_2 11V6_0 1V5_2 1V6_0 1V5_2 2V6_0 1V5_2 3V6_0 1V5_2 3V6_0 ",
     "5V5_2 8V6_0 1V5_2 7V6_0 1V5_2 10V6_0 2V6_1 1V12_0 3V13_0 9V6_0 1V5_2 1V6_0 2V5_2 2V6_0 ",
     "1V5_2 10V6_0 4V5_2 2V6_0 1V5_2 10V6_0 18V9_0 1V13_0 56 26V6_0 1V5_2 2V6_0 13 34V5_2 9V6_0 ",
     "1V9_0 4 9V5_2 7 2V6_0 14 6V10_0 154 33V6_0 12V7_0 3V8_0 6V6_0 1V7_0 70V6_0 1V7_0 2V8_0 ",
     "20V6_0 12V7_0 37V6_0 1V7_0 5V6_0 4V7_0 5V8_0 12V7_0 17V6_0 7V7_0 8V8_0 63V6_0 1V7_0 1V6_0 ",
     "1V7_0 182V6_0 1V7_0 4V6_0 2V7_0 1V8_0 62V6_0 2V7_0 4V6_1 7V7_0 5V8_0 24V6_0 18V7_0 1V9_0 ",
     "41V7_0 1V9_0 86V7_0 5V6_0 1V6_1 16V6_0 1V6_1 3V6_0 1V6_1 1V6_0 1V6_1 1V6_0 1V6_1 1V6_0 ",
     "1V6_1 3V6_0 1V6_1 6V6_0 2V6_1 4V6_0 1V6_1 1V6_0 2V6_1 4V6_0 1V6_1 12V6_0 2V7_0 2V8_0 ",
     "11V6_0 48V7_0 70V6_0 10V7_0 1V8_0 2V9_0 2V10_0 1V12_0 2V13_0 4 1V15_0 3V14_0 13V7_0 3 ",
     "4V7_0 3V9_0 2V10_0 1V11_0 1V12_0 2V13_0 3 116V6_0 3V15_0 4 5V15_0 85V7_0 4V11_0 1V15_0 6 ",
     "12V12_0 4 1V14_0 15 12V7_0 4 56V7_0 8 10V7_0 6 40V7_0 8 30V7_0 2 2V13_0 10V16_0 4 2V16_0 ",
     "62 12V10_0 1V13_0 3V12_0 9V8_0 6V9_0 1V10_0 8V9_0 8V10_0 1V9_0 2V10_0 12V9_0 1V12_0 ",
     "12V9_0 1V10_0 3V11_0 15V9_0 13V10_0 5V11_0 1V12_0 1V13_0 4V11_0 2V13_0 1V14_0 1V11_0 ",
     "1V12_0 4V11_0 5V8_0 13V9_0 6V10_0 11V11_0 2V13_0 6V12_0 3V13_0 2V12_0 10V11_0 6V12_0 ",
     "1V8_0 2V11_0 8V12_0 1V13_0 1V14_0 3V12_0 23V10_0 25V11_0 84V12_0 12 14V11_0 2 4V12_0 ",
     "1V13_0 3V15_0 3V12_0 2V14_0 3 3V12_0 4V13_0 2V15_0 1V16_0 5 1V16_0 6V12_0 19V13_0 4V14_0 ",
     "3V15_0 7V13_0 4V14_0 3V15_0 1V16_0 1V15_0 3V13_0 3V14_0 1V16_0 7 2V15_0 7V13_0 3V14_0 ",
     "2V15_0 1V16_0 2 1V16_0 8V14_0 1V15_0 1V16_0 6 7V14_0 2V15_0 7 147V13_0 1 55V13_0 37V16_0 ",
     "10V13_0 1028 2V2_0 42711V3_1 7V13_0 2V14_0 32 4149V5_2 4V14_0 1V15_0 6 222V6_0 2 5762V8_0 ",
     "14 7473V10_0 15 622V15_1 2466 542V3_1 1504 2V2_0 4939V13_0 5 4192V15_0 56398 2V2_0 65534 ",
     "2V2_0 65534 2V2_0 65534 2V2_0 65534 2V2_0 65534 2V2_0 65534 2V2_0 65534 2V2_0 65534 2V2_0 ",
     "65534 2V2_0 65534 2V2_0 1 1V3_1 30 96V3_1 128 240V4_0 65038 131074V2_0"]

/-- Each version with its further name, from the oldest on. -/
def ageNames : List (String × List String) :=
  [("V1_1", ["1.1"]), ("V2_0", ["2.0"]), ("V2_1", ["2.1"]), ("V3_0", ["3.0"]), ("V3_1", ["3.1"]),
   ("V3_2", ["3.2"]), ("V4_0", ["4.0"]), ("V4_1", ["4.1"]), ("V5_0", ["5.0"]), ("V5_1", ["5.1"]),
   ("V5_2", ["5.2"]), ("V6_0", ["6.0"]), ("V6_1", ["6.1"]), ("V6_2", ["6.2"]), ("V6_3", ["6.3"]),
   ("V7_0", ["7.0"]), ("V8_0", ["8.0"]), ("V9_0", ["9.0"]), ("V10_0", ["10.0"]),
   ("V11_0", ["11.0"]), ("V12_0", ["12.0"]), ("V12_1", ["12.1"]), ("V13_0", ["13.0"]),
   ("V14_0", ["14.0"]), ("V15_0", ["15.0"]), ("V15_1", ["15.1"]), ("V16_0", ["16.0"])]

/-- The code points that are assigned in a version, which are those assigned by it or by an older
one. -/
def age (name : String) : CodeSet :=
  let younger := (ageNames.map (·.1)).dropWhile (· != name) |>.drop 1
  selectRuns (readRuns ageRuns) fun version => !version.isEmpty && !younger.contains version

end FoxScript.Unicode
