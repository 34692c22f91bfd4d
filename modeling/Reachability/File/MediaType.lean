/-
# Media types

The kinds of content that a `Content-Type` header names, with the extension that a file of
each kind gets.

Main definitions:

* `MediaType.table` : the kinds with their extensions;
* `MediaType.extension?` : the extension for a header.
-/
import Reachability.Text.Blank
import Reachability.Text.Split

namespace Reachability.MediaType

/-! ## The table -/

/-- The kinds, each with its extension, in the order of their names. -/
def tableText : String :=
  "application/acad=dwg application/andrew-inset=ez application/annodex=anx
    application/applixware=aw application/atom+xml=atom application/atomcat+xml=atomcat
    application/atomsvc+xml=atomsvc application/ccxml+xml=ccxml
    application/cdmi-capability=cdmia application/cdmi-container=cdmic
    application/cdmi-domain=cdmid application/cdmi-object=cdmio application/cdmi-queue=cdmiq
    application/cu-seeme=cu application/davmount+xml=davmount application/directx=x
    application/docbook+xml=dbk application/dssc+der=dssc application/dssc+xml=xdssc
    application/ecmascript=es application/emma+xml=emma application/envoy=evy
    application/epub+zip=epub application/etl=etl application/exi=exi
    application/font-tdpfr=pfr application/fractals=fif application/fsharp-script=fsx
    application/futuresplash=spl application/geo+json=geojson application/gml+xml=gml
    application/gpx+xml=gpx application/gxf=gxf application/gzip=gz application/hta=hta
    application/hyperstudio=stk application/inkml+xml=ink
    application/internet-property-stream=acx application/ipfix=ipfix
    application/java-archive=ear application/java-serialized-object=ser
    application/java-vm=class application/javascript=mjs application/json=json
    application/json5=json5 application/jsonml+json=jsonml application/ld+json=jsonld
    application/liquidmotion=jck application/lost+xml=lostxml application/mac-binhex40=hqx
    application/mac-compactpro=cpt application/mads+xml=mads
    application/manifest+json=webmanifest application/marc=mrc application/marcxml+xml=mrcx
    application/mathematica=ma application/mathml+xml=mathml application/mbox=mbox
    application/mediaservercontrol+xml=mscml application/metalink+xml=metalink
    application/metalink4+xml=meta4 application/mets+xml=mets application/mods+xml=mods
    application/mp21=m21 application/mp4=mp4s application/mpeg=amc application/ms-vsi=vsi
    application/msaccess=accdb application/msaccess.addin=accda
    application/msaccess.cab=accdc application/msaccess.ftemplate=accft
    application/msaccess.runtime=accdr application/msaccess.webapplication=accdw
    application/msword=doc application/mxf=mxf application/n-quads=nq
    application/n-triples=nt application/octet-stream=aaf application/oda=oda
    application/oebps-package+xml=opf application/ogg=ogx application/olescript=axs
    application/onenote=one application/opensearchdescription+xml=osdx application/oxps=oxps
    application/patch-ops-error+xml=xer application/pdf=pdf application/pgp-encrypted=pgp
    application/pgp-signature=asc application/pics-rules=prf application/pkcs10=p10
    application/pkcs7-mime=p7c application/pkcs7-signature=p7s application/pkcs8=p8
    application/pkix-attr-cert=ac application/pkix-crl=crl application/pkix-pkipath=pkipath
    application/pkixcmp=pki application/pls+xml=pls application/postscript=ai
    application/prs.cww=cww application/pskc+xml=pskcxml application/rdf+xml=rdf
    application/reginfo+xml=rif application/relax-ng-compact-syntax=rnc
    application/resource-lists+xml=rl application/resource-lists-diff+xml=rld
    application/rls-services+xml=rs application/rpki-ghostbusters=gbr
    application/rpki-manifest=mft application/rpki-roa=roa application/rsd+xml=rsd
    application/rss+xml=rss application/rtf=rtf application/sbml+xml=sbml
    application/scvp-cv-request=scq application/scvp-cv-response=scs
    application/scvp-vp-request=spq application/scvp-vp-response=spp application/sdp=sdp
    application/set-payment-initiation=setpay application/set-registration-initiation=setreg
    application/shf+xml=shf application/smil+xml=smi application/sparql-query=rq
    application/sparql-results+xml=srx application/srgs=gram application/srgs+xml=grxml
    application/sru+xml=sru application/ssdl+xml=ssdl application/ssml+xml=ssml
    application/streamingmedia=ssm application/tei+xml=tei application/thraud+xml=tfi
    application/timestamped-data=tsd application/toml=toml
    application/vnd.adobe.air-application-installer-package+zip=air
    application/vnd.adobe.xdp+xml=xdp application/vnd.adobe.xfdf=xfdf
    application/vnd.amazon.ebook=azw application/vnd.android.package-archive=apk
    application/vnd.apple.installer+xml=mpkg application/vnd.apple.keynote=key
    application/vnd.apple.mpegurl=m3u8 application/vnd.apple.numbers=numbers
    application/vnd.apple.pages=pages application/vnd.cinderella=cdy
    application/vnd.google-earth.kml+xml=kml application/vnd.google-earth.kmz=kmz
    application/vnd.hp-hpgl=hpgl application/vnd.hp-pcl=pcl application/vnd.lotus-1-2-3=123
    application/vnd.lotus-approach=apr application/vnd.lotus-freelance=pre
    application/vnd.lotus-notes=nsf application/vnd.lotus-organizer=org
    application/vnd.lotus-wordpro=lwp application/vnd.mif=mif
    application/vnd.mozilla.xul+xml=xul application/vnd.ms-artgalry=cil
    application/vnd.ms-cab-compressed=cab application/vnd.ms-excel=slk
    application/vnd.ms-excel.addin.macroenabled.12=xlam
    application/vnd.ms-excel.sheet.binary.macroenabled.12=xlsb
    application/vnd.ms-excel.sheet.macroenabled.12=xlsm
    application/vnd.ms-excel.template.macroenabled.12=xltm application/vnd.ms-fontobject=eot
    application/vnd.ms-htmlhelp=chm application/vnd.ms-ims=ims application/vnd.ms-lrm=lrm
    application/vnd.ms-mediapackage=mpf application/vnd.ms-officetheme=thmx
    application/vnd.ms-pki.certstore=sst application/vnd.ms-pki.pko=pko
    application/vnd.ms-pki.seccat=cat application/vnd.ms-pki.stl=stl
    application/vnd.ms-powerpoint=pot
    application/vnd.ms-powerpoint.addin.macroenabled.12=ppam
    application/vnd.ms-powerpoint.presentation.macroenabled.12=pptm
    application/vnd.ms-powerpoint.slide.macroenabled.12=sldm
    application/vnd.ms-powerpoint.slideshow.macroenabled.12=ppsm
    application/vnd.ms-powerpoint.template.macroenabled.12=potm
    application/vnd.ms-project=mpp application/vnd.ms-visio.viewer=vdx
    application/vnd.ms-word.document.macroenabled.12=docm
    application/vnd.ms-word.template.macroenabled.12=dotm application/vnd.ms-works=wcm
    application/vnd.ms-wpl=wpl application/vnd.ms-xpsdocument=xps
    application/vnd.oasis.opendocument.chart=odc
    application/vnd.oasis.opendocument.database=odb
    application/vnd.oasis.opendocument.formula=odf
    application/vnd.oasis.opendocument.graphics=odg
    application/vnd.oasis.opendocument.graphics-template=otg
    application/vnd.oasis.opendocument.image=odi
    application/vnd.oasis.opendocument.presentation=odp
    application/vnd.oasis.opendocument.presentation-template=otp
    application/vnd.oasis.opendocument.spreadsheet=ods
    application/vnd.oasis.opendocument.spreadsheet-template=ots
    application/vnd.oasis.opendocument.text=odt
    application/vnd.oasis.opendocument.text-master=odm
    application/vnd.oasis.opendocument.text-template=ott
    application/vnd.oasis.opendocument.text-web=oth
    application/vnd.openofficeorg.extension=oxt
    application/vnd.openxmlformats-officedocument.presentationml.presentation=pptx
    application/vnd.openxmlformats-officedocument.presentationml.slide=sldx
    application/vnd.openxmlformats-officedocument.presentationml.slideshow=ppsx
    application/vnd.openxmlformats-officedocument.presentationml.template=potx
    application/vnd.openxmlformats-officedocument.spreadsheetml.sheet=xlsx
    application/vnd.openxmlformats-officedocument.spreadsheetml.template=xltx
    application/vnd.openxmlformats-officedocument.wordprocessingml.document=docx
    application/vnd.openxmlformats-officedocument.wordprocessingml.template=dotx
    application/vnd.palm=oprc application/vnd.rn-realmedia=rm
    application/vnd.sun.xml.calc=sxc application/vnd.sun.xml.draw=sxd
    application/vnd.sun.xml.impress=sxi application/vnd.sun.xml.math=sxm
    application/vnd.sun.xml.writer=sxw application/vnd.symbian.install=sis
    application/vnd.tcpdump.pcap=cap application/vnd.visio=vsd
    application/vnd.wap.wbxml=wbxml application/vnd.wap.wmlc=wmlc
    application/vnd.wap.wmlscriptc=wmlsc application/voicexml+xml=vxml application/wasm=wasm
    application/widget=wgt application/windows-appcontent+xml=appcontent-ms
    application/windows-library+xml=library-ms
    application/windows-search-connector+xml=searchconnector-ms application/winhlp=hlp
    application/wlmoviemaker=wlmp application/wsdl+xml=wsdl
    application/wspolicy+xml=wspolicy application/x-7z-compressed=7z
    application/x-abiword=abw application/x-ace-compressed=ace
    application/x-apple-diskimage=dmg application/x-authorware-bin=aab
    application/x-authorware-map=aam application/x-authorware-seg=aas
    application/x-bcpio=bcpio application/x-bittorrent=torrent
    application/x-bridge-url=adobebridge application/x-bzip=bz application/x-bzip2=boz
    application/x-cdf=cdf application/x-cdlink=vcd application/x-chat=chat
    application/x-chess-pgn=pgn application/x-compress=z application/x-compressed=tgz
    application/x-cpio=cpio application/x-csh=csh application/x-debian-package=deb
    application/x-director=cct application/x-doom=wad application/x-dtbncx+xml=ncx
    application/x-dtbook+xml=dtb application/x-dtbresource+xml=res application/x-dvi=dvi
    application/x-font-bdf=bdf application/x-font-ghostscript=gsf
    application/x-font-linux-psf=psf application/x-font-pcf=pcf application/x-font-snf=snf
    application/x-font-type1=pfa application/x-futuresplash=spl
    application/x-gnumeric=gnumeric application/x-gtar=gtar application/x-gzip=gz
    application/x-hdf=hdf application/x-internet-signup=ins application/x-iphone=iii
    application/x-itunes-ipa=ipa application/x-itunes-ipg=ipg application/x-itunes-ipsw=ipsw
    application/x-itunes-ite=ite application/x-itunes-itlp=itlp
    application/x-itunes-itms=itms application/x-itunes-itpc=itpc
    application/x-java-applet=class application/x-java-jnlp-file=jnlp application/x-koan=skd
    application/x-latex=latex application/x-lzh-compressed=lha application/x-mie=mie
    application/x-miva-compiled=mvc application/x-mmxp=mxp
    application/x-mobipocket-ebook=mobi application/x-ms-application=application
    application/x-ms-license=slupkg-ms application/x-ms-manifest=manifest
    application/x-ms-reader=lit application/x-ms-shortcut=lnk application/x-ms-vsto=vsto
    application/x-ms-wmd=wmd application/x-ms-wmz=wmz application/x-ms-xbap=xbap
    application/x-msbinder=obd application/x-mscardfile=crd application/x-msclip=clp
    application/x-msdownload=bat application/x-msmediaview=m13 application/x-msmetafile=emf
    application/x-msmoney=mny application/x-mspublisher=pub application/x-msschedule=scd
    application/x-msterminal=trm application/x-mswrite=wri application/x-netcdf=cdf
    application/x-nzb=nzb application/x-oleobject=hhc application/x-perfmon=pma
    application/x-pkcs12=p12 application/x-pkcs7-certificates=p7b
    application/x-pkcs7-certreqresp=p7r application/x-podcast=pcast
    application/x-quicktimeplayer=qtl application/x-rar-compressed=rar
    application/x-research-info-systems=ris application/x-safari-safariextz=safariextz
    application/x-safari-webarchive=webarchive application/x-sgimb=sgimb application/x-sh=sh
    application/x-shar=shar application/x-shockwave-flash=mfp
    application/x-silverlight-app=xap application/x-smaf=mmf application/x-sql=sql
    application/x-stuffit=sit application/x-stuffitx=sitx application/x-subrip=srt
    application/x-sv4cpio=sv4cpio application/x-sv4crc=sv4crc application/x-tar=tar
    application/x-tcl=tcl application/x-tex=tex application/x-tex-tfm=tfm
    application/x-texinfo=texi application/x-tgif=obj application/x-troff=roff
    application/x-troff-man=man application/x-troff-me=me application/x-troff-ms=ms
    application/x-ustar=ustar application/x-wais-source=src
    application/x-wlpg-detect=wlpginstall application/x-wlpg3-detect=wlpginstall3
    application/x-x509-ca-cert=cer application/x-xfig=fig application/x-xliff+xml=xlf
    application/x-xpinstall=xpi application/x-xz=xz application/xaml+xml=xaml
    application/xcap-diff+xml=xdf application/xenc+xml=xenc application/xhtml+xml=xht
    application/xml=asa application/xml-dtd=dtd application/xop+xml=xop
    application/xproc+xml=xpl application/xslt+xml=xslt application/xspf+xml=xspf
    application/xv+xml=mxml application/yang=yang application/yin+xml=yin
    application/zip=zip audio/aac=aac audio/ac3=ac3 audio/aiff=aif audio/annodex=axa
    audio/audible=aa audio/basic=au audio/flac=flac audio/m4a=m4a audio/m4b=m4b
    audio/m4p=m4p audio/midi=kar audio/mp4=mp4a audio/mpeg=m2a audio/ogg=oga audio/s3m=s3m
    audio/scpls=pls audio/silk=sil audio/vnd.audible.aax=aax audio/vnd.dlna.adts=adt
    audio/vnd.dra=dra audio/vnd.dts=dts audio/vnd.dts.hd=dtshd
    audio/vnd.ms-playready.media.pya=pya audio/vnd.rip=rip audio/wav=wav audio/webm=weba
    audio/x-caf=caf audio/x-gsm=gsm audio/x-m4r=m4r audio/x-matroska=mka audio/x-mpegurl=m3u
    audio/x-ms-wax=wax audio/x-ms-wma=wma audio/x-pn-realaudio=ra
    audio/x-pn-realaudio-plugin=rmp audio/x-sd2=sd2 audio/x-smd=smd audio/xm=xm
    chemical/x-cdx=cdx chemical/x-cif=cif chemical/x-cmdf=cmdf chemical/x-cml=cml
    chemical/x-csml=csml chemical/x-pdb=pdb chemical/x-xyz=xyz drawing/x-dwf=dwf
    font/collection=ttc font/otf=otf font/ttf=ttf font/woff=woff font/woff2=woff2
    image/avif=avif image/bmp=bmp image/cgm=cgm image/cis-cod=cod image/g3fax=g3
    image/gif=gif image/heic=heic image/heif=heif image/ief=ief image/jp2=jp2
    image/jpeg=jfif image/jxl=jxl image/ktx=ktx image/pict=pct image/png=png
    image/prs.btif=btif image/sgi=sgi image/svg+xml=svg image/tiff=tif
    image/vnd.adobe.photoshop=psd image/vnd.djvu=djv image/vnd.dxf=dxf
    image/vnd.fastbidsheet=fbs image/vnd.fpx=fpx image/vnd.fst=fst
    image/vnd.fujixerox.edmics-mmr=mmr image/vnd.fujixerox.edmics-rlc=rlc
    image/vnd.ms-modi=mdi image/vnd.ms-photo=wdp image/vnd.net-fpx=npx
    image/vnd.rn-realflash=rf image/vnd.wap.wbmp=wbmp image/vnd.xiff=xif image/webp=webp
    image/x-3ds=3ds image/x-cmu-raster=ras image/x-cmx=cmx image/x-freehand=fh
    image/x-icon=ico image/x-jg=art image/x-macpaint=mac image/x-mrsid-image=sid
    image/x-pcx=pcx image/x-portable-anymap=pnm image/x-portable-bitmap=pbm
    image/x-portable-graymap=pgm image/x-portable-pixmap=ppm image/x-quicktime=qti
    image/x-rgb=rgb image/x-tga=tga image/x-xbitmap=xbm image/x-xpixmap=xpm
    image/x-xwindowdump=xwd message/rfc822=eml model/gltf+json=gltf model/gltf-binary=glb
    model/iges=iges model/mesh=mesh model/vnd.collada+xml=dae model/vnd.dwf=dwf
    model/vnd.dwfx+xps=dwfx model/vnd.gdl=gdl model/vnd.gtw=gtw model/vnd.mts=mts
    model/vnd.vtu=vtu model/vrml=vrml model/x3d+binary=x3db model/x3d+vrml=x3dv
    model/x3d+xml=x3d text/cache-manifest=appcache text/calendar=ics
    text/coffeescript=coffee text/css=css text/csv=csv text/dlm=dlm text/h323=323
    text/html=htm text/iuls=uls text/jade=jade text/javascript=ecma text/jscript=jsx
    text/less=less text/markdown=markdown text/mathml=mml text/n3=n3 text/plain=asm
    text/prs.lines.tag=dsc text/richtext=rtx text/scriptlet=sct text/sgml=sgm text/slim=slim
    text/stylus=styl text/tab-separated-values=tsv text/troff=man text/turtle=ttl
    text/uri-list=uri text/vbscript=vbs text/vcard=vcard text/vnd.curl=curl
    text/vnd.dvb.subtitle=sub text/vnd.fly=fly text/vnd.fmi.flexstor=flx
    text/vnd.graphviz=dot text/vnd.in3d.3dml=3dml text/vnd.in3d.spot=spot
    text/vnd.sun.j2me.app-descriptor=jad text/vnd.wap.wml=wml text/vnd.wap.wmlscript=wmls
    text/vtt=vtt text/webviewhtml=htt text/x-component=htc text/x-fortran=f
    text/x-handlebars-template=hbs text/x-hdml=hdml text/x-html-insertion=qht
    text/x-java-source=java text/x-lua=lua text/x-markdown=mkd text/x-ms-contact=contact
    text/x-ms-group=group text/x-ms-iqy=iqy text/x-ms-odc=odc text/x-ms-rqy=rqy
    text/x-nfo=nfo text/x-opml=opml text/x-org=org text/x-pascal=p text/x-rust=rs
    text/x-sass=sass text/x-scss=scss text/x-setext=etx text/x-sfv=sfv text/x-suse-ymp=ymp
    text/x-toml=toml text/x-uuencode=uu text/x-vcalendar=vcs text/x-vcard=vcf
    text/x-yaml=yaml text/xml=addin video/3gpp=3gp video/3gpp2=3g2 video/animaflex=afl
    video/annodex=axv video/divx=divx video/h261=h261 video/h263=h263 video/h264=h264
    video/jpeg=jpgv video/jpm=jpgm video/mj2=mj2 video/mp2t=ts video/mp4=mp4 video/mpeg=m1v
    video/ogg=ogv video/quicktime=mov video/vnd.dece.hd=uvh video/vnd.dlna.mpeg-tts=m2t
    video/vnd.dvb.file=dvb video/vnd.fvt=fvt video/vnd.mpegurl=m4u
    video/vnd.ms-playready.media.pyv=pyv video/vnd.uvvu.mp4=uvu video/vnd.vivo=viv
    video/webm=webm video/x-dv=dif video/x-f4v=f4v video/x-fli=fli video/x-flv=flv
    video/x-ivf=ivf video/x-la-asf=lsf video/x-m4v=m4v video/x-matroska=mk3d video/x-mng=mng
    video/x-ms-asf=asf video/x-ms-vob=vob video/x-ms-wm=wm video/x-ms-wmp=wmp
    video/x-ms-wmv=wmv video/x-ms-wmx=wmx video/x-ms-wvx=wvx video/x-msvideo=avi
    video/x-sgi-movie=movie video/x-smv=smv x-conference/x-cooltalk=ice x-world/x-vrml=flr"

/-- The characters that extensions are made of. -/
def isExtensionCharacter (c : Char) : Bool := c.isAlphanum || c == '-'

/-- A kind of content in its two parts, and its extension, which is never empty. -/
structure Entry where
  family : List Char
  member : List Char
  extension : String
  nonempty : extension.toList ≠ []
  plain : extension.toList.all isExtensionCharacter = true

/-- The entry that a word of the table is. -/
def Entry.ofChars? (cs : List Char) : Option Entry := do
  let (kind, extension) ← Text.cutFirst? '=' cs
  let (family, member) ← Text.cutFirst? '/' kind
  if h : extension ≠ [] ∧ extension.all isExtensionCharacter = true then
    some {
      family
      member
      extension := String.ofList extension
      nonempty := by simpa using h.1
      plain := by simpa using h.2 }
  else none

/-- The kinds in the order of their names. -/
def table : List Entry := (Text.words tableText.toList).filterMap Entry.ofChars?

/-! ## Looking up -/

/-- The extension for a kind; a star stands for any part, of which the first one is taken. -/
def lookup? (family member : List Char) : Option String :=
  (table.find? fun e =>
    family = ['*'] || (e.family = family && (member = ['*'] || e.member = member))).map
      (·.extension)

/-- The kind that a header names: what stands before its parameters, in small letters. -/
def essence (header : String) : List Char :=
  (Text.strip ((Text.fields ';' header.toList).headD [])).map Char.toLower

/-- The extension for the kind that a header names. -/
def extension? (header : String) : Option String := do
  let (family, member) ← Text.cutFirst? '/' (essence header)
  lookup? family member

end Reachability.MediaType
