import HiddenEquation.Corpus

/-!
# The standard corpus

The corpus from which targets are taken unless the player names a file.

## Main definitions

* `Corpus.standardSheet` : the sheet with one equation per line.
* `Corpus.standardEntries` : its entries.
* `Corpus.standard` : its equations.
-/

namespace HiddenEquation.Corpus

/-- The sheet of the standard corpus. -/
def standardSheet : String := String.join [
  "1+2+3=6\n63-9=54\n8+29=37\n67+7=74\n63-63=0\n7-7+9=9\n8/4*4=8\n3-6+8=5\n3-2+3=4\n7/7+2=3\n",
  "69-9=60\n89-89=0\n85-83=2\n3-3+6=6\n2+70=72\n62-3=59\n46-40=6\n27-27=0\n2+6-3=5\n76-6=70\n",
  "97-96=1\n9+14=23\n14*3=42\n81+2=83\n6*2-7=5\n64+2=66\n9-4+4=9\n86+6=92\n9-1-7=1\n3*4/3=4\n",
  "88+6=94\n1+6/3=3\n73-8=65\n2*13=26\n19+3=22\n11+9=20\n3-6/3=1\n4+1+2=7\n82+6=88\n1-7+7=1\n",
  "66-9=57\n5+24=29\n60/12=5\n80+3=83\n30+2=32\n71-64=7\n39-8=31\n9+41=50\n44+6=50\n7-1-5=1\n",
  "1+2-3=0\n9/3+6=9\n2+38=40\n65+5=70\n9-5+1=5\n40+3=43\n6+39=45\n79-76=3\n2+3+4=9\n4+59=63\n",
  "49-42=7\n38-7=31\n70+1=71\n42-9=33\n1-6+9=4\n2*4-7=1\n8+40=48\n2-8+7=1\n6+1-5=2\n2-8+6=0\n",
  "43-1=42\n57-5=52\n2*3+2=8\n1+7-4=4\n95-4=91\n1+1*6=7\n34-33=1\n33-33=0\n17+4=21\n68-59=9\n",
  "54/27=2\n6*3/6=3\n6-1*3=3\n2*5-9=1\n8+58=66\n89-86=3\n30-9=21\n92-5=87\n4-6+2=0\n5+69=74\n",
  "2+44=46\n48-44=4\n5+5-6=4\n1+60=61\n6+5-7=4\n21-21=0\n25-6=19\n4+28=32\n2-1+6=7\n1+47=48\n",
  "19+6=25\n67+1=68\n7+4-4=7\n3+73=76\n94-7=87\n8+25=33\n3-5+4=2\n62-58=4\n7-8+7=6\n3-7+6=2\n",
  "24-9=15\n6+91=97\n9+60=69\n57+1=58\n21+8=29\n6*10=60\n6-1-1=4\n34-28=6\n1+1*5=6\n80-72=8\n",
  "46-46=0\n1+8-7=2\n33/11=3\n3-4+5=4\n59-6=53\n82-81=1\n9+5-8=6\n8-3-3=2\n2-1*2=0\n14*4=56\n",
  "28-7=21\n34-30=4\n60/6=10\n4+73=77\n1+4-4=1\n84/2=42\n5+36=41\n44-5=39\n57-55=2\n2*6-3=9\n",
  "2*6/2=6\n2+59=61\n33-25=8\n8-7/7=7\n9+23=32\n4+11=15\n1+63=64\n82-76=6\n53+4=57\n53-9=44\n",
  "87/29=3\n64+4=68\n24*2=48\n8/4*3=6\n7+26=33\n8-2*2=4\n26+3=29\n57-54=3\n3+95=98\n89+5=94\n",
  "3*25=75\n48-41=7\n38-32=6\n84/3=28\n4+4-3=5\n3-6+7=4\n3*5/5=3\n89-82=7\n8*4/8=4\n30-22=8\n",
  "95/5=19\n58+7=65\n7+2-7=2\n83+7=90\n2+1-2=1\n6-2*3=0\n15-2=13\n2-3/3=1\n2/2*2=2\n12-2=10\n",
  "7/7+6=7\n4+6/2=7\n4*3/2=6\n59+4=63\n4+7-4=7\n6-1-2=3\n81-2=79\n7+58=65\n44*2=88\n71-71=0\n",
  "3+65=68\n2*35=70\n23-4=19\n38-33=5\n7+1*2=9\n8+26=34\n9-4+1=6\n86+9=95\n85-8=77\n2*6-9=3\n",
  "40-39=1\n34-1=33\n32+6=38\n1+7-1=7\n2*38=76\n4-5+6=5\n6+57=63\n62+5=67\n4+4+1=9\n19-11=8\n",
  "15-10=5\n3+7-2=8\n41*2=82\n53+5=58\n74-69=5\n8+9/9=9\n25*3=75\n2+64=66\n51-43=8\n26-6=20\n",
  "63-3=60\n5+42=47\n9-6-2=1\n97+1=98\n72-2=70\n8-9+2=1\n27+8=35\n8/8+3=4\n11+4=15\n1+72=73\n",
  "69-65=4\n50+9=59\n48-4=44\n10-10=0\n1+88=89\n81-81=0\n9+20=29\n2*7-6=8\n7+2-5=4\n2*3-3=3\n",
  "48-43=5\n"]

/-- The entries of the standard corpus. -/
def standardEntries : List String := entries standardSheet

/-- The equations of the standard corpus. -/
def standard : List Equation := ofTexts standardEntries

end HiddenEquation.Corpus
